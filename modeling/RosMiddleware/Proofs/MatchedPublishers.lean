import RosMiddleware.Proofs.IssuedIdentifiers
import RosMiddleware.Proofs.NoticeAccounts
import RosMiddleware.Proofs.SampleCounts

/-!
Counts of matching publishers. A count is cut off at none after every change, so it depends on
their order: it is the net of all changes, less the least net of the first ones. In a process a
listener hears of the changes signalled to it alone and of those on the topics of its readers,
and nothing else moves its count. All this is so as long as 32 bits hold the sums on the way to the
count; a build that stops at others gets through just then, and to the same count.
-/
namespace RosMiddleware

def Listener.matchAll (l : Listener) (changes : List Int32) : Listener :=
  changes.foldl Listener.matchPublishers l

namespace Publishers

/-- What the changes come to if nothing is cut off. -/
def net : List Int32 → Int
  | [] => 0
  | c :: changes => c.toInt + net changes

/-- The least net of the first changes, with none of them and with all of them among these. -/
def lowest : List Int32 → Int
  | [] => 0
  | c :: changes => min 0 (c.toInt + lowest changes)

def count (matched : Int) (changes : List Int32) : Int :=
  changes.foldl (fun matched c => max 0 (matched + c.toInt)) matched

/-- The count that is kept in 32 bits. -/
def word (matched : Int32) (changes : List Int32) : Int32 :=
  changes.foldl (fun matched c => max 0 (matched + c)) matched

structure Tallied (changes : List Int32) (matched : Int) : Prop where
  /-- The net, less the least net of the first changes. -/
  closed : ∃ least, least <+: changes ∧ (∀ before, before <+: changes → net least ≤ net before) ∧
    matched = net changes - net least
  nonneg : 0 ≤ matched
  /-- Nothing was cut off exactly if the net was never negative. -/
  exact : matched = net changes ↔ ∀ before, before <+: changes → 0 ≤ net before
  net_le : net changes ≤ matched

variable {matched : Int} {before changes : List Int32}

theorem lowest_le (first : before <+: changes) : lowest changes ≤ net before := by
  induction changes generalizing before with
  | nil =>
      rw [List.prefix_nil.mp first]
      exact Int.le_refl 0
  | cons c changes ih =>
      rcases List.prefix_cons_iff.mp first with rfl | ⟨before, rfl, rest⟩
      · exact Int.min_le_left 0 _
      · have least := ih rest
        rw [lowest, net]
        omega

theorem exists_net_eq_lowest (changes : List Int32) :
    ∃ least, least <+: changes ∧ net least = lowest changes := by
  induction changes with
  | nil => exact ⟨[], List.prefix_rfl, rfl⟩
  | cons c changes ih =>
      obtain ⟨least, first, eq⟩ := ih
      rw [lowest]
      by_cases down : c.toInt + lowest changes ≤ 0
      · refine ⟨c :: least, List.cons_prefix_cons.mpr ⟨rfl, first⟩, ?_⟩
        rw [net, eq, Int.min_eq_right down]
      · refine ⟨[], List.nil_prefix, ?_⟩
        rw [net, Int.min_eq_left (Int.le_of_not_le down)]

theorem matched_matchAll (l : Listener) (changes : List Int32) :
    (l.matchAll changes).matched = word l.matched changes := by
  induction changes generalizing l with
  | nil => rfl
  | cons c changes ih => exact ih (l.matchPublishers c)

theorem word_append (matched : Int32) (changes later : List Int32) :
    word matched (changes ++ later) = word (word matched changes) later :=
  List.foldl_append

/-- A count that is there at first puts the level at which it is cut off further down. -/
theorem count_eq (possible : 0 ≤ matched) (changes : List Int32) :
    count matched changes = matched + net changes - min 0 (matched + lowest changes) := by
  induction changes generalizing matched with
  | nil =>
      rw [net, lowest, count, List.foldl_nil]
      omega
  | cons c changes ih =>
      have rest := ih (Int.le_max_left 0 (matched + c.toInt))
      have least : lowest changes ≤ 0 := lowest_le List.nil_prefix
      rw [net, lowest]
      refine Eq.trans rest ?_
      -- the first sum is not cut off, or it is and the least net is that of some more changes
      omega

/-- The count is the height of the net above its least value so far. -/
theorem tallied_count (changes : List Int32) : Tallied changes (count 0 changes) := by
  obtain ⟨least, first, eq⟩ := exists_net_eq_lowest changes
  have atFirst : lowest changes ≤ 0 := lowest_le List.nil_prefix
  have atLast : lowest changes ≤ net changes := lowest_le List.prefix_rfl
  have counted : count 0 changes = net changes - lowest changes := by
    rw [count_eq (Int.le_refl 0)]
    omega
  constructor
  case closed =>
    refine ⟨least, first, fun before start => ?_, ?_⟩
    · rw [eq]
      exact lowest_le start
    · rw [eq, counted]
  case nonneg => omega
  case net_le => omega
  case exact =>
    constructor
    · intro same before start
      have above := lowest_le start
      omega
    · intro up
      have above := up least first
      omega

/-! ### 32 bits -/

def Fits (n : Int) : Prop := Int32.minValue.toInt ≤ n ∧ n ≤ Int32.maxValue.toInt

/-- 32 bits hold every sum of a count and a change on the way, also one that is then cut off. -/
def SumsFit (matched : Int) : List Int32 → Prop
  | [] => True
  | c :: changes => Fits (matched + c.toInt) ∧ SumsFit (max 0 (matched + c.toInt)) changes

instance (n : Int) : Decidable (Fits n) := inferInstanceAs (Decidable (_ ∧ _))

instance decidableSumsFit : (matched : Int) → (changes : List Int32) →
    Decidable (SumsFit matched changes)
  | _, [] => .isTrue trivial
  | matched, c :: changes =>
    have := decidableSumsFit (max 0 (matched + c.toInt)) changes
    inferInstanceAs (Decidable (_ ∧ _))

/-- The count in a build that stops at a sum that 32 bits do not hold. -/
def checked? (matched : Int32) : List Int32 → Option Int32
  | [] => some matched
  | c :: changes =>
    if Fits (matched.toInt + c.toInt) then checked? (max 0 (matched + c)) changes else none

theorem toInt_add_of_fits {a b : Int32} (fits : Fits (a.toInt + b.toInt)) :
    (a + b).toInt = a.toInt + b.toInt := by
  have least : -2 ^ 31 ≤ a.toInt + b.toInt := fits.1
  have most : a.toInt + b.toInt ≤ 2 ^ 31 - 1 := fits.2
  rw [Int32.toInt_add]
  exact Int.bmod_eq_of_le (by omega) (by omega)

theorem toInt_max_zero (a : Int32) : (max 0 a).toInt = max 0 a.toInt := by
  have order : 0 ≤ a ↔ 0 ≤ a.toInt := Int32.le_iff_toInt_le
  change (if 0 ≤ a then a else 0).toInt = max 0 a.toInt
  split <;> rename_i sign <;> rw [order] at sign
  · exact (Int.max_eq_right sign).symm
  · exact (Int.max_eq_left (Int.le_of_not_le sign)).symm

theorem toInt_max_add {a b : Int32} (fits : Fits (a.toInt + b.toInt)) :
    (max 0 (a + b)).toInt = max 0 (a.toInt + b.toInt) := by
  rw [toInt_max_zero, toInt_add_of_fits fits]

/-- As long as the sums fit nothing wraps around. -/
theorem toInt_word {matched : Int32} (fit : SumsFit matched.toInt changes) :
    (word matched changes).toInt = count matched.toInt changes := by
  induction changes generalizing matched with
  | nil => rfl
  | cons c changes ih =>
      obtain ⟨fits, fit⟩ := fit
      rw [← toInt_max_add fits] at fit
      refine (ih fit).trans ?_
      rw [toInt_max_add fits]
      rfl

theorem checked?_of_sumsFit {matched : Int32} (fit : SumsFit matched.toInt changes) :
    checked? matched changes = some (word matched changes) := by
  induction changes generalizing matched with
  | nil => rfl
  | cons c changes ih =>
      obtain ⟨fits, fit⟩ := fit
      rw [← toInt_max_add fits] at fit
      rw [checked?, if_pos fits]
      exact ih fit

/-- The sums that are looked at are those of the count, which was cut off before. -/
theorem sumsFit_iff (matched : Int32) (changes : List Int32) :
    SumsFit matched.toInt changes ↔ (checked? matched changes).isSome := by
  constructor
  · intro fit
    rw [checked?_of_sumsFit fit]
    rfl
  · intro through
    induction changes generalizing matched with
    | nil => trivial
    | cons c changes ih =>
        rw [checked?] at through
        split at through
        · rename_i fits
          have fit := ih _ through
          rw [toInt_max_add fits] at fit
          exact ⟨fits, fit⟩
        · cases through

/-- The nets of these changes fit, but what is cut off in between does not come back. -/
example :
    let changes := [Int32.minValue, Int32.maxValue, 1]
    (∀ k ≤ 3, Fits (net (changes.take k))) ∧ checked? 0 changes = none := by
  decide

end Publishers

/-! ### What leaves counts alone -/

namespace Listener

variable {l l' : Listener} {s : Step} {heard : Option Notice}

theorem Acted.matched (acted : Acted l s l' heard) : l'.matched = l.matched := by
  cases acted <;> rfl

theorem matched_run (l : Listener) (steps : List Step) : (l.run steps).matched = l.matched := by
  induction steps generalizing l with
  | nil => rfl
  | cons s steps ih => exact (ih _).trans (acted l s).matched

theorem matched_settle (l : Listener) (s : Step) : (settle (l.act s)).1.matched = l.matched := by
  have settled := settle_eq (l.act s).1 (l.act s).2
  rw [Prod.eta] at settled
  rw [settled, matched_run]
  exact (acted l s).matched

end Listener

namespace Listeners

open Publishers (word word_append)

variable {ls : Listeners} {l target : ListenerId}

theorem matched_setIfInBounds {listener : Listener}
    (same : listener.matched = (find ls target).matched) (l : ListenerId) :
    (find (ls.setIfInBounds target listener) l).matched = (find ls l).matched := by
  rw [find_setIfInBounds]
  split
  · rename_i here
    rw [same, here.1]
  · rfl

/-- A step of one listener with what its callback then does. -/
theorem matched_step (ls : Listeners) (target : ListenerId) (s : Listener.Step)
    (l : ListenerId) :
    (find (ls.change target fun listener => listener.act s).1 l).matched =
      (find ls l).matched :=
  matched_setIfInBounds ((find ls target).matched_settle s) l

theorem matched_arriveAt (targets : List ListenerId) (ls : Listeners) (l : ListenerId) :
    (find (arriveAt targets ls).1 l).matched = (find ls l).matched := by
  induction targets generalizing ls with
  | nil => rfl
  | cons target targets ih => exact (ih _).trans (matched_step ls target .arrive l)

def heard (ls : Listeners) (l : ListenerId) (times : Nat) (change : Int32) : List Int32 :=
  if l < ls.size then List.replicate times change else []

theorem heard_add (ls : Listeners) (l : ListenerId) (first later : Nat) (change : Int32) :
    ls.heard l (first + later) change = ls.heard l first change ++ ls.heard l later change := by
  simp only [heard]
  split
  · exact List.replicate_append_replicate.symm
  · rfl

theorem matched_matchPublishers (ls : Listeners) (target : ListenerId) (change : Int32)
    (l : ListenerId) :
    (find (ls.setIfInBounds target ((find ls target).matchPublishers change)) l).matched =
      word (find ls l).matched (ls.heard l (if target = l then 1 else 0) change) := by
  rw [find_setIfInBounds, heard]
  by_cases same : target = l
  · subst same
    by_cases inBounds : target < ls.size
    · simp only [inBounds, and_self, if_true]
      rfl
    · simp only [inBounds, and_false, if_false]
      rfl
  · simp only [same, false_and, if_false, List.replicate_zero, ite_self]
    rfl

theorem matched_matchAt (change : Int32) (targets : List ListenerId) (ls : Listeners)
    (l : ListenerId) :
    (find (matchAt change targets ls) l).matched =
      word (find ls l).matched (ls.heard l (targets.count l) change) := by
  induction targets generalizing ls with
  | nil =>
      rw [List.count_nil, heard, List.replicate_zero, ite_self]
      rfl
  | cons target targets ih =>
      refine (ih _).trans ?_
      have first := ls.matched_matchPublishers target change l
      have times : (target :: targets).count l =
          (if target = l then 1 else 0) + targets.count l := by
        rw [List.count_cons, Nat.add_comm]
        simp only [beq_iff_eq]
      rw [times, heard_add, word_append, ← first]
      simp only [heard, Listeners.change, Listener.settle, Array.size_setIfInBounds]

end Listeners

/-! ### Processes -/

/-- At most one listener comes, with a new subscription. -/
theorem Site.listeners_create (s : Site) (r : Subscription.Request) :
    (s.create r).2.listeners = s.listeners ∨
      (s.create r).2.listeners = s.listeners.push {} := by
  rcases s.create_cases r with ⟨_, _, left⟩ | ⟨_, _, _, _, _, _, _, left⟩
  · rw [left]
    exact .inl rfl
  · rw [left]
    cases r.wantsListener with
    | true => exact .inr rfl
    | false => exact .inl rfl

namespace Action

/-- What is not about transports is not about listeners either. -/
def Modest : Action → Prop
  | .elsewhere change _ => ∀ d, (change d).listeners = d.listeners
  | _ => True

variable {d : Domain} {a : Action}

/-- A creation may add a listener, and nothing else gets to one. -/
theorem listeners_perform (d : Domain) (modest : a.Modest) :
    (a.perform d).2.listeners = d.listeners ∨
      (a.perform d).2.listeners = d.listeners.push {} := by
  cases a with
  | addTransport | addParticipant _ _ | switch _ _ | configure _ _ | dropReader _ _
  | atRegistry _ _ _ | drop _ _ => exact .inl rfl
  | elsewhere change apart => exact .inl (modest d)
  | registerType t type =>
      simp only [perform, Domain.registerType]
      split <;> exact .inl rfl
  | unregisterType t typeName =>
      simp only [perform, Domain.unregisterType]
      split <;> exact .inl rfl
  | createReader t attributes listener =>
      simp only [perform, Domain.createReader]
      cases (d.transport t).createReader attributes listener with
      | error _ | ok _ => exact .inl rfl
  | create p request => exact (d.site p).listeners_create request
  | destroy p sub =>
      obtain ⟨journal, left⟩ := (d.site p).destroy_snd sub sub.implementation
      exact .inl (congrArg Site.listeners left)
  | shutdown p => exact .inl (d.site p).listeners_shutdown

theorem find_perform (d : Domain) (modest : a.Modest) (l : ListenerId) :
    Listeners.find (a.perform d).2.listeners l = Listeners.find d.listeners l := by
  rcases listeners_perform d modest with same | more
  · rw [same]
  · rw [more, Listeners.find_push]

end Action

inductive Occurrence
  | addListener
  /-- A sample that arrives, one that is taken, or another callback. -/
  | step (l : ListenerId) (s : Listener.Step)
  | deliver (t : TransportId) (topic : String)
  /-- A change signalled to one listener. -/
  | signal (l : ListenerId) (change : Int32)
  | matchPublishers (t : TransportId) (topic : String) (change : Int32)
  | act (a : Action) (modest : a.Modest)

namespace Occurrence

open Listeners (find)
open Publishers

def happen (d : Domain) : Occurrence → Domain
  | .addListener => d.addListener.2
  | .step l s => (d.atListener l fun listener => listener.act s).2
  | .deliver t topic => (d.deliver t topic).2
  | .signal l change =>
    (d.atListener l fun listener => (listener.matchPublishers change, none)).2
  | .matchPublishers t topic change => d.matchPublishers t topic change
  | .act a _ => (a.perform d).2

def run (d : Domain) (occurrences : List Occurrence) : Domain := occurrences.foldl happen d

/-- The changes that a listener hears of, once for each of its readers on the topic. -/
def heard (l : ListenerId) (d : Domain) : Occurrence → List Int32
  | .signal target change => d.listeners.heard l (if target = l then 1 else 0) change
  | .matchPublishers t topic change =>
    d.listeners.heard l (((d.transport t).listenersOn topic).count l) change
  | .addListener | .step _ _ | .deliver _ _ | .act _ _ => []

def signalled (l : ListenerId) : Domain → List Occurrence → List Int32
  | _, [] => []
  | d, o :: occurrences => o.heard l d ++ signalled l (o.happen d) occurrences

/-- What happens moves a count by the changes that the listener hears of then, and by nothing else.
-/
theorem matched_happen (d : Domain) (o : Occurrence) (l : ListenerId) :
    (find (o.happen d).listeners l).matched =
      word (find d.listeners l).matched (o.heard l d) := by
  cases o with
  | addListener => exact congrArg Listener.matched (Listeners.find_push d.listeners l)
  | step target s => exact Listeners.matched_step d.listeners target s l
  | deliver t topic =>
      exact Listeners.matched_arriveAt ((d.transport t).listenersOn topic) d.listeners l
  | signal target change => exact Listeners.matched_matchPublishers d.listeners target change l
  | matchPublishers t topic change =>
      exact Listeners.matched_matchAt change ((d.transport t).listenersOn topic) d.listeners l
  | act a modest => exact congrArg Listener.matched (Action.find_perform d modest l)

theorem matched_run (d : Domain) (occurrences : List Occurrence) (l : ListenerId) :
    (find (run d occurrences).listeners l).matched =
      word (find d.listeners l).matched (signalled l d occurrences) := by
  induction occurrences generalizing d with
  | nil => rfl
  | cons o occurrences ih =>
      rw [signalled, word_append, ← matched_happen]
      exact ih (o.happen d)

/-- As long as 32 bits hold every sum on the way, the count of a listener is the net of the
changes, less the least net of the first ones; just then a build that stops at other sums gets
through, to the same count. In a process the changes that the listener hears of decide the count,
whatever else happens. -/
theorem publishers_tallied :
    (∀ changes,
      let matched := (Listener.matchAll {} changes).matched
      (SumsFit 0 changes → Tallied changes matched.toInt) ∧
        (SumsFit 0 changes ↔ (checked? 0 changes).isSome) ∧
        (SumsFit 0 changes → checked? 0 changes = some matched)) ∧
      ∀ occurrences l, (find (run {} occurrences).listeners l).matched =
        (Listener.matchAll {} (signalled l {} occurrences)).matched := by
  constructor
  · intro changes matched
    have counted : matched = word 0 changes := matched_matchAll {} changes
    rw [counted]
    refine ⟨fun fit => ?_, sumsFit_iff 0 changes, fun fit => checked?_of_sumsFit fit⟩
    have exact : (word 0 changes).toInt = count 0 changes := toInt_word fit
    rw [exact]
    exact tallied_count changes
  · intro occurrences l
    rw [matched_matchAll]
    exact matched_run {} occurrences l

/-- Two readers share the listener, and one of them goes before the last change. -/
theorem publishers_tallied_shared_listener :
    let string : MessageType := ⟨"std_msgs::msg", "String", 256⟩
    let attributes : Transport.ReaderAttributes :=
      { topicName := "rt/chatter", typeName := string.typeName }
    let guid : Transport.Guid := ⟨Transport.Guid.hostOf 1, Transport.Guid.readerOf 1⟩
    let occurrences : List Occurrence :=
      [.act .addTransport trivial, .act (.registerType 0 string) trivial, .addListener,
        .act (.createReader 0 attributes (some 0)) trivial,
        .act (.createReader 0 attributes (some 0)) trivial,
        .step 0 (.install (some ⟨"on_message", .take⟩)), .matchPublishers 0 "rt/chatter" 2,
        .signal 0 (-7), .deliver 0 "rt/chatter", .matchPublishers 0 "rt/chatter" (-1),
        .act (.dropReader 0 ⟨guid, attributes⟩) trivial, .signal 0 5,
        .matchPublishers 0 "rt/chatter" (-1)]
    let changes : List Int32 := [2, 2, -7, -1, -1, 5, -1]
    signalled 0 {} occurrences = changes ∧ SumsFit 0 changes ∧ Tallied changes 4 ∧
      (find (run {} occurrences).listeners 0).matched = 4 ∧ checked? 0 changes = some 4 := by
  intro string attributes guid occurrences changes
  have heard : signalled 0 {} occurrences = changes := by decide +kernel
  have four : (find (run {} occurrences).listeners 0).matched = 4 := by decide +kernel
  have fit : SumsFit 0 changes := by decide
  obtain ⟨tally, decided⟩ := publishers_tallied
  obtain ⟨tallied, -, through⟩ := tally changes
  rw [← heard, ← decided, four, heard] at tallied through
  exact ⟨heard, fit, tallied fit, four, through fit⟩

end Occurrence

end RosMiddleware
