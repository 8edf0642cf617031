import RosMiddleware.Domain
import RosMiddleware.Proofs.CreationRollback

/-!
What calls leave in the journal. A call that fails records its error once, and the slot for
the last error then has its message; a call that succeeds leaves the slot alone. Whatever
else a call logs as an error tells of a type that the transport did not let go, while a hold
was dropped or the participant was shut down, and does not get to the slot.
-/
namespace RosMiddleware

/-- A record has the kind of its error in front. -/
theorem Error.ne_display {text : String} (head : text.toList.head? = some 'f') (e : Error) :
    text ≠ e.display := by
  rintro rfl
  cases kind : e.kind <;> simp [display, kind, ErrorKind.label] at head

namespace Transport

def HoldRefusal (t : Transport) (typeName text : String) : Prop :=
  ∃ refusal, t.unregisterType typeName = .error refusal ∧
    text = "failed to release type '" ++ typeName ++ "': " ++ (Error.transport refusal).display

def ShutdownRefusal (t : Transport) (typeName text : String) : Prop :=
  ∃ refusal, t.unregisterType typeName = .error refusal ∧
    text = "failed to unregister type '" ++ typeName ++ "': " ++ refusal.message

variable {t t' : Transport} {typeName other text : String}

theorem HoldRefusal.apart (refused : t.HoldRefusal typeName text) (e : Error) :
    text ≠ e.display := by
  obtain ⟨_, _, rfl⟩ := refused
  exact e.ne_display (by simp)

theorem ShutdownRefusal.apart (refused : t.ShutdownRefusal typeName text) (e : Error) :
    text ≠ e.display := by
  obtain ⟨_, _, rfl⟩ := refused
  exact e.ne_display (by simp)

theorem unregisterType_error {refusal : Refusal}
    (refused : t.unregisterType typeName = .error refusal) :
    t.faults.unregisterType = true ∧ refusal = .unregistrationRejected ∨
      t.faults.unregisterType = false ∧ t.isRegistered typeName = false ∧
        refusal = .notRegistered typeName := by
  unfold unregisterType at refused
  grind

theorem unregisterType_of_accepted (accepted : t.unregisterType other = .ok t') :
    t.faults.unregisterType = false ∧ t' = { t with types := t.types.erase other } := by
  unfold unregisterType at accepted
  grind

/-- A type that is refused is refused still when another one has gone. -/
theorem refused_after {refusal : Refusal} (accepted : t.unregisterType other = .ok t')
    (refused : t.unregisterType typeName = .error refusal) :
    t'.unregisterType typeName = .error refusal := by
  obtain ⟨on, rfl⟩ := unregisterType_of_accepted accepted
  obtain ⟨off, _⟩ | ⟨_, missing, rfl⟩ := unregisterType_error refused
  · cases on.symm.trans off
  · simp_all [unregisterType, isRegistered]

end Transport

namespace Journal

@[simp] theorem log_nil (j : Journal) : j.log [] = j := by simp [log]

/-- A call left the second journal in the place of the first. -/
inductive Reports {α : Type} (secondary : String → Prop) (j : Journal) :
    Except Error α → Journal → Prop
  | accepted (a : α) (new : List Event) (quiet : ∀ text, .error text ∉ new) :
      Reports secondary j (.ok a) (j.log new)
  | failed (e : Error) (before after : List Event)
      (others : ∀ text, .error text ∈ before ++ after → secondary text) :
      Reports secondary j (.error e) (((j.log before).record e).log after)

variable {α β : Type} {secondary secondary' : String → Prop} {j j' : Journal}
  {outcome : Except Error α}

theorem Reports.same (a : α) : Reports secondary j (.ok a) j := by
  have quiet : Reports secondary j (.ok a) (j.log []) := .accepted a [] nofun
  rwa [log_nil] at quiet

theorem Reports.record (e : Error) :
    Reports secondary j (.error e : Except Error α) (j.record e) := by
  have alone : Reports secondary j (.error e : Except Error α) (((j.log []).record e).log []) :=
    .failed e [] [] nofun
  rwa [log_nil, log_nil] at alone

theorem Reports.map (f : α → β) (reports : Reports secondary j outcome j') :
    Reports secondary j (outcome.map f) j' := by
  cases reports with
  | accepted a new quiet => exact .accepted (f a) new quiet
  | failed e before after others => exact .failed e before after others

structure Logs (secondary : String → Prop) (outcome : Except Error α) (events : List Event) :
    Prop where
  quiet : ∀ a, outcome = .ok a → ∀ text, .error text ∉ events
  others : ∀ text, .error text ∈ events → secondary text

theorem Logs.nothing (outcome : Except Error α) : Logs secondary outcome [] := ⟨nofun, nofun⟩

theorem Logs.of_error {e : Error} {events : List Event}
    (others : ∀ text, .error text ∈ events → secondary text) :
    Logs secondary (.error e : Except Error α) events :=
  ⟨nofun, others⟩

theorem Logs.map {events : List Event} (f : α → β) (logs : Logs secondary outcome events) :
    Logs secondary (outcome.map f) events := by
  cases outcome with
  | ok a => exact ⟨fun _ _ => logs.quiet a rfl, logs.others⟩
  | error e => exact .of_error logs.others

theorem Logs.imp {events : List Event} (logs : Logs secondary outcome events)
    (wider : ∀ text, secondary text → secondary' text) : Logs secondary' outcome events :=
  ⟨logs.quiet, fun text logged => wider text (logs.others text logged)⟩

theorem Logs.reports {events : List Event} (logs : Logs secondary outcome events) :
    Reports secondary j outcome ((j.log events).settle outcome) := by
  cases outcome with
  | ok a => exact .accepted a events (logs.quiet a rfl)
  | error e =>
      have failed : Reports secondary j (.error e : Except Error α)
          (((j.log events).record e).log []) := .failed e events [] (by simpa using logs.others)
      rwa [log_nil] at failed

theorem Reports.unchanged {a : α} (reports : Reports secondary j (.ok a) j') :
    j'.lastError = j.lastError := by
  cases reports
  rfl

theorem Reports.message {e : Error}
    (reports : Reports secondary j (.error e : Except Error α) j') :
    j'.lastError = some e.message := by
  cases reports
  rfl

/-- The error is recorded once, since no other text that is logged could be taken for it. -/
theorem Reports.events (reports : Reports secondary j outcome j')
    (apart : ∀ text, secondary text → ∀ e : Error, text ≠ e.display) :
    ∃ new, j'.events = j.events ++ new ∧
      (∀ a, outcome = .ok a → ∀ text, .error text ∉ new) ∧
      ∀ e, outcome = .error e → new.count (.error e.display) = 1 ∧
        ∀ text, .error text ∈ new → text = e.display ∨ secondary text := by
  cases reports with
  | accepted a new quiet =>
      exact ⟨new, rfl, fun _ _ => quiet, nofun⟩
  | failed e before after others =>
      refine ⟨before ++ .error e.display :: after, by
        simp [log, Journal.record, setError], nofun, ?_⟩
      intro _ same
      cases same
      -- no refusal reads like the error, which is therefore there once
      have absent : .error e.display ∉ before ++ after := fun logged =>
        apart _ (others _ logged) e rfl
      rw [List.mem_append, not_or] at absent
      constructor
      · simp [List.count_append, List.count_eq_zero.mpr absent.1, List.count_eq_zero.mpr absent.2]
      · intro text logged
        rw [List.mem_append, List.mem_cons, Event.error.injEq] at logged
        obtain before | rfl | after := logged
        · exact .inr (others text (List.mem_append_left _ before))
        · exact .inl rfl
        · exact .inr (others text (List.mem_append_right _ after))

end Journal

namespace Registrar

open Journal (Logs)

variable {s s' : Registrar}

theorem refusal_of_release {typeName : String} {e : Error}
    (failed : s.release typeName = (.error e, s')) :
    ∃ refusal, e = .transport refusal ∧ s'.transport.unregisterType typeName = .error refusal := by
  unfold release at failed
  split at failed
  · cases failed
  · dsimp only at failed
    split at failed
    · cases failed
    · split at failed
      · rename_i refusal refused
        cases failed
        exact ⟨refusal, rfl, refused⟩
      · cases failed

theorem refusal_of_dropHold {hold : TypeHold} {text : String}
    (logged : .error text ∈ (s.dropHold hold).2) :
    (s.dropHold hold).1.transport.HoldRefusal hold.typeName text := by
  unfold dropHold at logged ⊢
  split at logged
  · simp at logged
  · rename_i failed
    obtain ⟨refusal, rfl, refused⟩ := refusal_of_release failed
    rw [List.mem_singleton, Event.error.injEq] at logged
    exact ⟨refusal, refused, logged⟩

/-- A creation logs nothing of its own, but the hold may be dropped on the way. -/
theorem logs_establish {settings : Settings} {place : ListenerId} {r : Subscription.Request}
    {support : TypeSupport} {outcome : Except Error Subscription} {events : List Event}
    (h : s.establish settings place r support = (outcome, s', events)) :
    Logs (s'.transport.HoldRefusal support.type.typeName) outcome events := by
  cases creation_establish h with
  | withoutHold | made => exact .nothing _
  | withoutAttributes _ _ _ had | withoutReader _ _ _ _ had | withoutGid _ _ _ _ _ _ had =>
      rw [← typeName_of_acquire had]
      exact .of_error fun _ => refusal_of_dropHold

/-- What comes after a refusal does not change it. -/
theorem refused_unregisterEach {names : List String} {typeName : String}
    {refusal : Transport.Refusal}
    (refused : s.transport.unregisterType typeName = .error refusal) :
    (unregisterEach names s).2.transport.unregisterType typeName = .error refusal := by
  induction names generalizing s with
  | nil => exact refused
  | cons n names ih =>
      rw [unregisterEach]
      split
      · exact ih refused
      · rename_i accepted
        exact ih (Transport.refused_after accepted refused)

/-- What was refused is refused still when the other types have gone. -/
theorem refusal_of_unregisterEach {names : List String} {refusal : String × Transport.Refusal}
    (refused : refusal ∈ (unregisterEach names s).1) :
    refusal.1 ∈ names ∧
      (unregisterEach names s).2.transport.unregisterType refusal.1 = .error refusal.2 := by
  induction names generalizing s with
  | nil => cases refused
  | cons n names ih =>
      rw [unregisterEach] at refused ⊢
      split at refused
      · rename_i first
        cases refused with
        | head =>
            exact ⟨List.mem_cons_self, refused_unregisterEach first⟩
        | tail _ later =>
            obtain ⟨among, still⟩ := ih later
            exact ⟨List.mem_cons_of_mem _ among, still⟩
      · obtain ⟨among, still⟩ := ih refused
        exact ⟨List.mem_cons_of_mem _ among, still⟩

theorem logs_unregisterAll {outcome : Except Error Unit} {events : List Event}
    (h : s.unregisterAll = (outcome, s', events)) :
    Logs (fun text => ∃ typeName ∈ s.registry.entries,
      s'.transport.ShutdownRefusal typeName text) outcome events := by
  rcases each : unregisterEach s.registry.entries.keys s with ⟨refusals, left⟩
  simp only [unregisterAll, each] at h
  cases h
  constructor
  · intro a succeeded text
    cases refusals with
    | nil => exact List.not_mem_nil
    | cons refusal refusals => cases succeeded
  · intro text logged
    obtain ⟨⟨typeName, refusal⟩, among, same⟩ := List.mem_map.mp logged
    have refused : (typeName, refusal) ∈ (unregisterEach s.registry.entries.keys s).1 := by
      rwa [each]
    have refused := refusal_of_unregisterEach refused
    rw [each] at refused
    obtain ⟨cached, refused⟩ := refused
    cases same
    exact ⟨typeName, Std.ExtTreeMap.mem_keys.mp cached, refusal, refused, rfl⟩

end Registrar

namespace Site

open Journal (Reports)
open Subscription (Request)

/-- A hold on a type that the request asks for was dropped, and the type was not let go. -/
def CreationRefusal (s : Site) (r : Request) (text : String) : Prop :=
  ∃ typeName, r.AsksFor typeName ∧
    (s.create r).2.registrar.transport.HoldRefusal typeName text

theorem reports_create (s : Site) (r : Request) :
    Reports (s.CreationRefusal r) s.journal (s.create r).1 (s.create r).2.journal := by
  cases checked : r.check s.participant.isOpen with
  | error e =>
      rw [create, checked]
      exact .record e
  | ok support =>
      rcases established : s.registrar.establish s.participant.settings s.listeners.size r
        support with ⟨outcome, registrar, events⟩
      have left : (s.create r).1 = outcome ∧ (s.create r).2.registrar = registrar ∧
          (s.create r).2.journal = (s.journal.log events).settle outcome := by
        simp only [create, checked, established]
        cases outcome <;> exact ⟨rfl, rfl, rfl⟩
      obtain ⟨same, kept, journal⟩ := left
      rw [same, journal]
      refine Journal.Logs.reports ((Registrar.logs_establish established).imp ?_)
      intro text refused
      have asked := (Request.asksFor_iff (Request.preferred_of_check checked)).mpr rfl
      exact ⟨_, asked, kept ▸ refused⟩

theorem reports_destroy (s : Site) (sub : Subscription) :
    Reports ((s.destroy sub).2.registrar.transport.HoldRefusal sub.typeName) s.journal
      (s.destroy sub).1 (s.destroy sub).2.journal := by
  unfold destroy
  split
  · let e := Error.foreignSubscription sub.implementation
    have failed : Reports ((s.registrar.drop sub).1.transport.HoldRefusal sub.typeName) s.journal
        (.error e : Except Error Unit)
        (((s.journal.log []).record e).log (s.registrar.drop sub).2) :=
      .failed e [] _ fun _ logged => Registrar.refusal_of_dropHold logged
    rwa [Journal.log_nil] at failed
  · split
    · exact .same ()
    · exact .record _

def ShutdownRefusal (s : Site) (text : String) : Prop :=
  ∃ typeName ∈ s.registrar.registry.entries,
    s.shutdown.2.registrar.transport.ShutdownRefusal typeName text

theorem reports_shutdown (s : Site) :
    Reports s.ShutdownRefusal s.journal s.shutdown.1 s.shutdown.2.journal := by
  cases isOpen : s.participant.isOpen with
  | false =>
      rw [shutdown_of_closed isOpen]
      exact .same ()
  | true =>
      rcases emptied : s.registrar.unregisterAll with ⟨outcome, registrar, events⟩
      have left : s.shutdown.1 = outcome ∧ s.shutdown.2.registrar = registrar ∧
          s.shutdown.2.journal = (s.journal.log events).settle outcome := by
        simp only [shutdown, isOpen, not_true_eq_false, if_false, emptied]
        cases outcome <;> exact ⟨rfl, rfl, rfl⟩
      obtain ⟨same, kept, journal⟩ := left
      rw [same, journal]
      refine Journal.Logs.reports ((Registrar.logs_unregisterAll emptied).imp ?_)
      intro text refused
      rwa [ShutdownRefusal, kept]

end Site

namespace Graph

open Journal (Logs Reports)

/-- An index warns, but it never logs an error. -/
theorem Index.logs_answer (i : Index) (scope : Scope) (name type : Demangler)
    (out : NamesAndTypes) :
    Logs (fun _ => False) (i.answer scope name type out).1 (i.answer scope name type out).2 := by
  have warns : ∀ endpoints text, .error text ∉ warnings name type endpoints := by
    simp [warnings]
  unfold answer
  split
  · exact .nothing _
  · split
    · exact .nothing _
    · exact ⟨fun _ _ => warns _, warns _⟩

/-- Queries log no other error than the one that they return. -/
theorem Inquiry.reports_ask (q : Inquiry) (arguments : Except Error Unit) (scope : Scope)
    (name type : Demangler) :
    Reports (fun _ => False) q.journal (q.ask arguments scope name type).1
      (q.ask arguments scope name type).2.journal := by
  cases arguments with
  | error e => exact .record e
  | ok _ =>
      have logs := q.index.logs_answer scope name type q.out
      have left : (q.consult scope name type).1 =
            (q.index.answer scope name type q.out).1.map (fun _ => ()) ∧
          (q.consult scope name type).2.journal =
            q.journal.log (q.index.answer scope name type q.out).2 := by
        unfold consult
        rcases q.index.answer scope name type q.out with ⟨answer, events⟩
        cases answer <;> exact ⟨rfl, rfl⟩
      simp only [ask, settle, left.1, left.2]
      exact (logs.map _).reports

end Graph

namespace Domain

open Journal (Reports)

/-- The calls whose errors are recorded. -/
inductive Call
  | createSubscription (p : ParticipantId) (request : Subscription.Request)
  | destroySubscription (p : ParticipantId) (sub : Subscription)
  | shutdown (p : ParticipantId)
  | createNode (context : Context) (key : Graph.NodeKey)
  | buildContext (sources : Config.Sources) (graph : Option GraphId)
  | ofNode (node : Node) (queried : Graph.NodeKey) (category : Graph.Category) (raw : Bool)
      (out : NamesAndTypes)
  | allTopics (node : Node) (raw : Bool) (out : NamesAndTypes)
  | allServices (node : Node) (out : NamesAndTypes)

def perform (d : Domain) : Call → Except Error Unit × Domain
  | .createSubscription p r =>
      let (outcome, d) := d.atSite p fun s => s.create r
      (outcome.map fun _ => (), d)
  | .destroySubscription p sub => d.atSite p fun s => s.destroy sub
  | .shutdown p => d.atSite p Site.shutdown
  | .createNode context key =>
      let (outcome, d) := d.createNode context key
      (outcome.map fun _ => (), d)
  | .buildContext sources graph =>
      let (outcome, d) := d.buildContext sources graph
      (outcome.map fun _ => (), d)
  | .ofNode node queried category raw out =>
      let (outcome, _, d) := d.inquire node.graph out fun q =>
        q.ofNode node.handle queried category raw
      (outcome, d)
  | .allTopics node raw out =>
      let (outcome, _, d) := d.inquire node.graph out fun q => q.allTopics node.handle raw
      (outcome, d)
  | .allServices node out =>
      let (outcome, _, d) := d.inquire node.graph out fun q => q.allServices node.handle
      (outcome, d)

/-- What a call may log as an error besides its own. -/
def Refusal (d : Domain) : Call → String → Prop
  | .createSubscription p r, text => (d.site p).CreationRefusal r text
  | .destroySubscription p sub, text =>
      ((d.site p).destroy sub).2.registrar.transport.HoldRefusal sub.typeName text
  | .shutdown p, text => (d.site p).ShutdownRefusal text
  | .createNode .., _ | .buildContext .., _ | .ofNode .., _ | .allTopics .., _
  | .allServices .., _ => False

theorem Refusal.apart {d : Domain} {c : Call} {text : String} (refused : d.Refusal c text)
    (e : Error) : text ≠ e.display := by
  cases c with
  | createSubscription p r =>
      obtain ⟨_, _, refused⟩ := refused
      exact refused.apart e
  | destroySubscription p sub =>
      exact Transport.HoldRefusal.apart refused e
  | shutdown p =>
      obtain ⟨_, _, refused⟩ := refused
      exact refused.apart e
  | createNode | buildContext | ofNode | allTopics | allServices => exact refused.elim

theorem reports_inquire (d : Domain) (g : GraphId) (out : NamesAndTypes)
    {f : Graph.Inquiry → Except Error Unit × Graph.Inquiry}
    (reports : ∀ q, Reports (fun _ => False) q.journal (f q).1 (f q).2.journal) :
    Reports (fun _ => False) d.journal (d.inquire g out f).1 (d.inquire g out f).2.2.journal :=
  reports ⟨d.graph g, out, d.journal⟩

/-- Every call records the error that it returns, and nothing if it returns none. -/
theorem reports_perform (d : Domain) (c : Call) :
    Reports (d.Refusal c) d.journal (d.perform c).1 (d.perform c).2.journal := by
  cases c with
  | createSubscription p r => exact ((d.site p).reports_create r).map _
  | destroySubscription p sub => exact (d.site p).reports_destroy sub
  | shutdown p => exact (d.site p).reports_shutdown
  | createNode context key =>
      simp only [perform, createNode]
      split
      · exact .same ()
      · exact .record _
  | buildContext sources graph =>
      simp only [perform, buildContext]
      split
      · exact .record _
      · split
        · exact .same ()
        · exact .same ()
  | ofNode node queried category raw out =>
      exact d.reports_inquire node.graph out fun q => q.reports_ask _ _ _ _
  | allTopics node raw out =>
      exact d.reports_inquire node.graph out fun q => q.reports_ask _ _ _ _
  | allServices node out =>
      exact d.reports_inquire node.graph out fun q => q.reports_ask _ _ _ _

/-! ### Runs -/

/-- Between the calls anything may change that does not write to the slot. -/
inductive Step
  | call (c : Call)
  | meanwhile (change : Domain → Domain)
      (kept : ∀ d, (change d).journal.lastError = d.journal.lastError)

/-- A refusal at a drop is logged, but it does not get to the slot. -/
theorem lastError_drop (d : Domain) (p : ParticipantId) (sub : Subscription) :
    (d.atSite p fun s => ((), s.drop sub)).2.journal.lastError = d.journal.lastError := rfl

def step (d : Domain) : Step → Domain
  | .call c => (d.perform c).2
  | .meanwhile change _ => change d

def run (d : Domain) (steps : List Step) : Domain := steps.foldl step d

def failure? (d : Domain) : Step → Option Error
  | .call c =>
      match (d.perform c).1 with
      | .ok () => none
      | .error e => some e
  | .meanwhile _ _ => none

def failures (d : Domain) : List Step → List Error
  | [] => []
  | s :: steps => (d.failure? s).toList ++ (d.step s).failures steps

theorem lastError_step (d : Domain) (s : Step) :
    (d.step s).journal.lastError = ((d.failure? s).map Error.message).or d.journal.lastError := by
  cases s with
  | meanwhile change kept => exact kept d
  | call c =>
      have reports := d.reports_perform c
      simp only [step, failure?]
      cases outcome : (d.perform c).1 with
      | ok _ => exact (outcome ▸ reports).unchanged
      | error e => exact (outcome ▸ reports).message

theorem lastError_run (d : Domain) (steps : List Step) :
    (d.run steps).journal.lastError =
      ((d.failures steps).getLast?.map Error.message).or d.journal.lastError := by
  induction steps generalizing d with
  | nil => rfl
  | cons s steps ih =>
      have first := d.lastError_step s
      have rest := ih (d.step s)
      simp only [run, List.foldl_cons, failures, List.getLast?_append] at rest ⊢
      rw [rest, first]
      cases ((d.step s).failures steps).getLast? <;> cases d.failure? s <;> rfl

structure Reported (d : Domain) (c : Call) : Prop where
  unchanged : (d.perform c).1 = .ok () →
    (d.perform c).2.journal.lastError = d.journal.lastError
  message : ∀ e, (d.perform c).1 = .error e →
    (d.perform c).2.journal.lastError = some e.message
  events : ∃ new, (d.perform c).2.journal.events = d.journal.events ++ new ∧
    ((d.perform c).1 = .ok () → ∀ text, .error text ∉ new) ∧
    ∀ e, (d.perform c).1 = .error e → new.count (.error e.display) = 1 ∧
      ∀ text, .error text ∈ new → text = e.display ∨ d.Refusal c text

theorem reported (d : Domain) (c : Call) : d.Reported c := by
  have reports := d.reports_perform c
  refine ⟨fun succeeded => ?_, fun e failed => ?_, ?_⟩
  · exact (succeeded ▸ reports).unchanged
  · exact (failed ▸ reports).message
  · obtain ⟨new, events, quiet, logged⟩ := reports.events fun _ refused => refused.apart
    exact ⟨new, events, quiet (), logged⟩

/-- The slot has the message of the last call that failed, or what was in it at first. A call that
fails logs its error once, and whatever else is logged as an error at a call tells of a type that
the transport did not let go. -/
theorem errors_reported (d : Domain) (steps : List Step) :
    (d.run steps).journal.lastError =
        ((d.failures steps).getLast?.map Error.message).or d.journal.lastError ∧
      ∀ c, (d.run steps).Reported c :=
  ⟨d.lastError_run steps, (d.run steps).reported⟩

end Domain

end RosMiddleware
