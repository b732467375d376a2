import Kpnet.Timer.Rounds

/-!
# A tick on an orderly slot

If the node the walk of `tick_ringtimer` started from has to wait, or if every node of the slot is
due, the walk sees every node exactly once: the due ones are reported in order and removed, the
others wait one revolution less.
-/
namespace Kpnet.Timer

open CircularList

variable {A : Type}

/-- Where every node carries a signal, the nodes without revolutions to go are the due ones. -/
theorem Ringtimer.due_eq_fires {ring : Ringtimer A} {l : List A}
    (nonzero : ∀ a ∈ l, (ring.nodes a).signal ≠ 0) (a : A) (member : a ∈ l) :
    ring.due a = ring.fires a := by
  simp only [due, fires, ne_eq, nonzero a member, not_false_eq_true, true_and]

/-- All that a whole walk over the nodes `l` has done, seen by the revolutions left. -/
theorem Stretch.walked {l : List A} {ring ring' : Ringtimer A}
    (stretch : Stretch l (l.filter ring.fires) ring ring')
    (waits : ∀ a ∈ l, ring.fires a = false → (ring'.nodes a).retries = (ring.nodes a).retries - 1)
    (room : ring.allocator.contents.length + (l.filter ring.fires).length ≤
      ring.allocator.capacity) : Walked l l ring ring' where
  current := stretch.current
  max := stretch.max
  timers := stretch.timers
  far := stretch.far
  signal := stretch.signal
  retries a outside := by rw [stretch.far a outside]
  waits := waits
  capacity := by rw [stretch.allocator, capacity_freeNodes]
  freed := by rw [stretch.allocator, contents_freeNodes _ _ room]

variable [DecidableEq A]

/-- A tick whose walk has ended, if the array has room for its signals. -/
theorem tickRingtimer_of_walkSlot {fuel : Nat} {ring ring' : Ringtimer A} {signals : List Int32}
    (ended : walkSlot fuel ring = (ring', signals, none)) (current : ring'.current = ring.current)
    (max : ring'.max = ring.max) (few : signals.length ≤ maxTickTime) :
    tickRingtimer fuel ring =
      some (signals, { ring' with current := (ring.current + 1) % ring.max }) := by
  rw [tickRingtimer_eq_unbounded, tickUnbounded, ended]
  simp [Option.filter, few, current, max]

/-- A slot whose walk sees every node once: it is empty, its first node has to wait, or
all its nodes are due. -/
def Ringtimer.Orderly (ring : Ringtimer A) (l : List A) : Prop :=
  (∀ a ∈ l.head?, ring.fires a = false) ∨ ∀ a ∈ l, ring.fires a = true

/-- A tick on an orderly slot sees every node once, whether or not the allocator has cells for the
nodes it takes out. -/
theorem tickRingtimer_passes (ring : Ringtimer A) (l : List A) (fuel : Nat)
    (front : ring.timers ring.current.toNat = l.head?) (chained : Chained ring.nodes l)
    (nonzero : ∀ a ∈ l, (ring.nodes a).signal ≠ 0) (orderly : ring.Orderly l)
    (enough : l.length ≤ fuel) (few : (l.filter ring.fires).length ≤ maxTickTime) :
    ∃ ring', tickRingtimer fuel ring =
        some ((l.filter ring.fires).map ring.report,
          { ring' with current := (ring.current + 1) % ring.max }) ∧
      Stretch l (l.filter ring.fires) ring ring' ∧
      (∀ a ∈ l, ring.fires a = false → (ring'.nodes a).retries = (ring.nodes a).retries - 1) ∧
      ring'.timers ring.current.toNat = (l.filter fun a => !ring.fires a).head? ∧
      Chained ring'.nodes (l.filter fun a => !ring.fires a) := by
  cases l with
  | nil =>
    refine ⟨ring, ?_, .refl [] ring, by simp, front, Cyclic.nil⟩
    rw [tickRingtimer, front]
    rfl
  | cons head l =>
    have dues := Ringtimer.due_eq_fires nonzero
    have filters := List.filter_congr dues
    rcases orderly with waits | due
    · -- the walk comes back to a first node that stays
      have waits : ring.fires head = false := waits head rfl
      obtain ⟨ring', ended, stretch, timers, linked, aged⟩ := walkSlot_stays ring head l fuel front
        chained (by rw [dues head (by simp), waits]) enough
      rw [filters] at ended stretch
      rw [List.filter_congr fun a member => by rw [dues a member]] at linked
      refine ⟨ring', tickRingtimer_of_walkSlot ended stretch.current stretch.max (by simpa using few),
        stretch, ?_, ?_, linked⟩
      · intro a member waiting
        rw [aged, if_pos ⟨member, by rw [dues a member, waiting]⟩, Ringtimer.aged,
          if_neg (nonzero a member)]
      · rw [timers, front]
        simp [waits]
    · -- every node is unlinked in turn, and the slot ends up empty
      have all_due : (head :: l).filter ring.fires = head :: l := List.filter_eq_self.mpr due
      have none_waits : ((head :: l).filter fun a => !ring.fires a) = [] := by
        rw [List.filter_eq_nil_iff]
        intro a member
        simp [due a member]
      have light : ring.weight (head :: l) ≤ fuel := by
        have rounds : ∀ a ∈ head :: l, (ring.nodes a).retries.toNat + 1 = 1 := by
          intro a member
          simpa [Ringtimer.fires, ← UInt64.toNat_inj] using due a member
        rw [Ringtimer.weight, List.map_congr_left rounds, List.map_const', List.sum_replicate,
          smul_eq_mul, Nat.mul_one]
        exact enough
      obtain ⟨ring', fired, rest, ended, roamed⟩ := walkSlot_drains ring head l fuel front chained
        (by rw [dues head (by simp), due head (by simp)])
      have none_left : rest = [] := roamed.ends nonzero light
      have order := roamed.order fun a member => by rw [dues a member, due a member]
      rw [none_left, List.append_nil] at order
      rw [none_left, order, List.head?_nil] at ended
      have stretch := roamed.toStretch
      rw [order] at stretch
      rw [all_due] at few ⊢
      refine ⟨ring', tickRingtimer_of_walkSlot ended stretch.current stretch.max (by simpa using few),
        stretch, ?_, ?_, ?_⟩
      · intro a member waiting
        rw [due a member] at waiting
        cases waiting
      · rw [roamed.emptied none_left, none_waits, List.head?_nil]
      · rw [none_waits]
        exact Cyclic.nil

/-- A tick on an orderly slot reports the due nodes, in order, and frees them; the others
stay, with one revolution less to wait. -/
theorem tickRingtimer_orderly (ring : Ringtimer A) (l : List A) (fuel : Nat)
    (front : ring.timers ring.current.toNat = l.head?) (chained : Chained ring.nodes l)
    (nonzero : ∀ a ∈ l, (ring.nodes a).signal ≠ 0) (orderly : ring.Orderly l)
    (enough : l.length ≤ fuel) (few : (l.filter ring.fires).length ≤ maxTickTime)
    (room : ring.allocator.contents.length + (l.filter ring.fires).length ≤
      ring.allocator.capacity) :
    ∃ ring', tickRingtimer fuel ring =
        some ((l.filter ring.fires).map ring.report,
          { ring' with current := (ring.current + 1) % ring.max }) ∧
      Walked l l ring ring' ∧
      ring'.timers ring.current.toNat = (l.filter fun a => !ring.fires a).head? ∧
      Chained ring'.nodes (l.filter fun a => !ring.fires a) := by
  obtain ⟨ring', ticked, stretch, waits, front', linked⟩ :=
    tickRingtimer_passes ring l fuel front chained nonzero orderly enough few
  exact ⟨ring', ticked, stretch.walked waits room, front', linked⟩

end Kpnet.Timer
