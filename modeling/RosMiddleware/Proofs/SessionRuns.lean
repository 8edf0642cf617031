import RosMiddleware.Delivery
import RosMiddleware.Proofs.SubscriptionLifecycle

/-!
Runs of one participant over a transport of its own. A session is the site of the
participant with the subscriptions that are alive, in the order of their creation; it goes
on by calls of the participant and of its subscriptions, by signals of the transport, and
by switching what the transport refuses. `act_step` says all that one action can do to the
registry, the readers and the live subscriptions.
-/
namespace RosMiddleware

open Registrar (Established RolledBack Released Emptied)

structure Session where
  site : Site
  live : List Subscription := []

namespace Session

abbrev registrar (s : Session) : Registrar := s.site.registrar

abbrev registry (s : Session) : TypeRegistry := s.site.registrar.registry

abbrev transport (s : Session) : Transport := s.site.registrar.transport

abbrev isOpen (s : Session) : Bool := s.site.participant.isOpen

def fresh (settings : Settings) (number : Nat) : Session where
  site := .fresh settings number

/-- Subscriptions are named by their places among those that are alive. -/
inductive Action
  | create (request : Subscription.Request)
  | drop (place : Nat)
  /-- The handle is given back with a tag that may have been altered. -/
  | destroy (place : Nat) (implementation : String)
  | shutdown
  | switch (faults : Transport.Faults)
  | configure (defaults : Transport.ReaderAttributes)
  | deliver (topic : String)
  | matchPublishers (topic : String) (change : Int32)
  | take (listener : ListenerId)

def withTransport (s : Session) (t : Transport) : Session :=
  { s with site := { s.site with registrar := { s.site.registrar with transport := t } } }

def withListeners (s : Session) (listeners : Listeners) : Session :=
  { s with site := { s.site with listeners := listeners } }

/-- Nothing happens at a place where no subscription is alive. -/
def act (s : Session) : Action → Session
  | .create r =>
      match s.site.create r with
      | (.ok sub, site) => ⟨site, s.live ++ [sub]⟩
      | (.error _, site) => ⟨site, s.live⟩
  | .drop place =>
      match s.live[place]? with
      | some sub => ⟨s.site.drop sub, s.live.eraseIdx place⟩
      | none => s
  | .destroy place implementation =>
      match s.live[place]? with
      | some sub =>
          ⟨(s.site.destroy { sub with implementation := implementation }).2,
            s.live.eraseIdx place⟩
      | none => s
  | .shutdown => ⟨s.site.shutdown.2, s.live⟩
  | .switch faults => s.withTransport { s.transport with faults := faults }
  | .configure defaults => s.withTransport { s.transport with defaults := defaults }
  | .deliver topic => s.withListeners (s.transport.deliver topic s.site.listeners).2.1
  | .matchPublishers topic change =>
      s.withListeners (s.transport.matchPublishers topic change s.site.listeners)
  | .take l =>
      let ls := s.site.listeners
      s.withListeners (ls.setIfInBounds l (Listeners.find ls l).takeOne.2)

def run (s : Session) (actions : List Action) : Session := actions.foldl act s

@[simp] theorem run_nil (s : Session) : s.run [] = s := rfl

@[simp] theorem run_cons (s : Session) (a : Action) (actions : List Action) :
    s.run (a :: actions) = (s.act a).run actions := rfl

theorem run_append (s : Session) (before after : List Action) :
    s.run (before ++ after) = (s.run before).run after :=
  List.foldl_append

def stringRequest (topic : String) : Subscription.Request where
  offered := [⟨TypeSupport.conventionCpp, ⟨"std_msgs::msg", "String", 256⟩⟩]
  topic := topic
  wantsListener := true

/-- What an action does, as far as the registry, the readers and the live subscriptions go. -/
inductive Step (s s' : Session) : Prop
  | idle (registry : s'.registry = s.registry) (types : s'.transport.types = s.transport.types)
      (readers : s.transport.SameReaders s'.transport) (live : s'.live = s.live)
      (isOpen : s'.isOpen = s.isOpen)
  | created (typeName : String) (sub : Subscription)
      (established : Established typeName s.registrar s'.registrar sub)
      (live : s'.live = s.live ++ [sub]) (wasOpen : s.isOpen = true)
      (isOpen : s'.isOpen = true)
  | failed (typeName : String) (rolledBack : RolledBack typeName s.registrar s'.registrar)
      (live : s'.live = s.live) (wasOpen : s.isOpen = true) (isOpen : s'.isOpen = true)
  | tornDown (before after : List Subscription) (sub : Subscription)
      (was : s.live = before ++ sub :: after)
      (released : Released sub.typeName (s.registrar.withoutReader sub) s'.registrar)
      (live : s'.live = before ++ after) (isOpen : s'.isOpen = s.isOpen)
  | closed (emptied : Emptied s.registrar s'.registrar) (live : s'.live = s.live)
      (wasOpen : s.isOpen = true) (isOpen : s'.isOpen = false)

private theorem act_create_step (s : Session) (r : Subscription.Request)
    (agrees : s.registrar.Agrees) (known : ∀ a ∈ s.transport.attached, a.guid ≠ .unknown) :
    Step s (s.act (.create r)) := by
  rcases s.site.create_cases r with ⟨e, journal, left⟩ |
    ⟨support, outcome, registrar, events, journal, checked, established, left⟩
  · simp only [act, left]
    exact .idle rfl rfl (.refl _) rfl rfl
  · have wasOpen := Site.isOpen_of_check checked
    cases outcome with
    | error e =>
        simp only [act, left]
        exact .failed _ (Registrar.establish_error agrees known established) rfl wasOpen wasOpen
    | ok sub =>
        simp only [act, left]
        exact .created _ sub (Registrar.establish_ok agrees established) rfl wasOpen wasOpen

private theorem split_at {live : List Subscription} {place : Nat} {sub : Subscription}
    (h : live[place]? = some sub) :
    live = live.take place ++ sub :: live.drop (place + 1) ∧
      live.eraseIdx place = live.take place ++ live.drop (place + 1) := by
  obtain ⟨lt, rfl⟩ := List.getElem?_eq_some_iff.mp h
  refine ⟨?_, List.eraseIdx_eq_take_drop_succ _ _⟩
  rw [← List.drop_eq_getElem_cons lt, List.take_append_drop]

inductive TornDown (s : Session) (place : Nat) : Session → Prop
  | nobody : TornDown s place s
  | gone (sub : Subscription) (journal : Journal) (alive : s.live[place]? = some sub) :
      TornDown s place
        ⟨{ s.site with registrar := (s.registrar.drop sub).1, journal := journal },
          s.live.eraseIdx place⟩

theorem tornDown_drop (s : Session) (place : Nat) : TornDown s place (s.act (.drop place)) := by
  simp only [act]
  split
  · rename_i sub alive
    obtain ⟨journal, left⟩ := s.site.drop_eq sub
    rw [left]
    exact .gone sub journal alive
  · exact .nobody

theorem tornDown_destroy (s : Session) (place : Nat) (implementation : String) :
    TornDown s place (s.act (.destroy place implementation)) := by
  simp only [act]
  split
  · rename_i sub alive
    obtain ⟨journal, left⟩ := s.site.destroy_snd sub implementation
    rw [left]
    exact .gone sub journal alive
  · exact .nobody

theorem TornDown.isOpen {s s' : Session} {place : Nat} (tornDown : TornDown s place s') :
    s'.isOpen = s.isOpen := by
  cases tornDown <;> rfl

theorem TornDown.listeners {s s' : Session} {place : Nat} (tornDown : TornDown s place s') :
    s'.site.listeners = s.site.listeners := by
  cases tornDown <;> rfl

theorem TornDown.live {s s' : Session} {place : Nat} (tornDown : TornDown s place s') :
    s'.live.Sublist s.live := by
  cases tornDown with
  | nobody => exact .refl _
  | gone _ _ _ => exact List.eraseIdx_sublist _ _

private theorem TornDown.step {s s' : Session} {place : Nat} (tornDown : TornDown s place s')
    (agrees : s.registrar.Agrees) : Step s s' := by
  cases tornDown with
  | nobody => exact .idle rfl rfl (.refl _) rfl rfl
  | gone sub journal alive =>
      obtain ⟨was, rest⟩ := split_at alive
      have released := Registrar.release_released (agrees.withoutReader sub) sub.typeName
      rw [← Registrar.drop_fst] at released
      exact .tornDown _ _ sub was released rest rfl

/-- Creation, teardown and shutdown are all that matters to types and readers; the other actions
leave them alone. -/
theorem act_step (s : Session) (agrees : s.registrar.Agrees)
    (known : ∀ a ∈ s.transport.attached, a.guid ≠ .unknown) (a : Action) :
    Step s (s.act a) := by
  cases a with
  | create r => exact act_create_step s r agrees known
  | drop place => exact (tornDown_drop s place).step agrees
  | destroy place implementation => exact (tornDown_destroy s place implementation).step agrees
  | shutdown =>
      cases wasOpen : s.isOpen with
      | false =>
          simp only [act, Site.shutdown_of_closed wasOpen]
          exact .idle rfl rfl (.refl _) rfl rfl
      | true =>
          obtain ⟨journal, left⟩ := Site.shutdown_snd wasOpen
          simp only [act, left]
          exact .closed (Registrar.unregisterAll_emptied agrees) rfl wasOpen rfl
  | switch _ | configure _ =>
      exact .idle rfl rfl ⟨rfl, rfl, rfl, rfl, Nat.le_refl _⟩ rfl rfl
  | deliver _ | matchPublishers _ _ | take _ => exact .idle rfl rfl (.refl _) rfl rfl

theorem Step.agrees {s s' : Session} (step : Step s s') (agrees : s.registrar.Agrees) :
    s'.registrar.Agrees := by
  cases step with
  | idle registry types _ _ _ =>
      exact agrees.congr (congrArg TypeRegistry.entries registry) types
  | created _ _ established _ _ _ =>
      exact agrees.of_insert established.entries (congrArg Transport.types established.transport)
  | failed _ rolledBack _ _ _ => exact rolledBack.unwound.agrees agrees
  | tornDown _ _ sub _ released _ _ => exact released.agrees (agrees.withoutReader sub)
  | closed emptied _ _ _ => exact emptied.agrees agrees

theorem Step.named {s s' : Session} (step : Step s s') (named : s.registrar.Named) :
    s'.registrar.Named := by
  cases step with
  | idle registry _ _ _ _ => exact named.congr (congrArg TypeRegistry.entries registry)
  | created typeName sub established _ _ _ =>
      exact named.of_insert ⟨sub.adapter, s.registry.holders typeName + 1⟩
        (established.adapter_typeName named) established.entries
  | failed _ rolledBack _ _ _ => exact rolledBack.unwound.named named
  | tornDown _ _ sub _ released _ _ => exact released.named (named.congr rfl)
  | closed emptied _ _ _ => exact emptied.named named

/-- No listener is attached under the unknown identity. -/
theorem Step.known {s s' : Session} (step : Step s s')
    (known : ∀ a ∈ s.transport.attached, a.guid ≠ .unknown) :
    ∀ a ∈ s'.transport.attached, a.guid ≠ .unknown := by
  cases step with
  | idle _ _ readers _ _ => exact readers.attached ▸ known
  | created _ sub established _ _ _ =>
      have attached : s'.transport.attached = s.transport.attached ++ sub.attachment?.toList :=
        (congrArg Transport.attached established.transport :)
      intro a ha
      rw [attached, List.mem_append] at ha
      rcases ha with ha | ha
      · exact known a ha
      · simp only [Subscription.attachment?, Option.mem_toList, Option.map_eq_some_iff] at ha
        obtain ⟨l, _, rfl⟩ := ha
        rw [established.guid]
        exact Transport.Guid.known_of_hostOf _ _
  | failed _ rolledBack _ _ _ => exact rolledBack.readers.attached ▸ known
  | tornDown _ _ sub _ released _ _ =>
      have attached : s'.transport.attached =
          s.transport.attached.eraseP fun a => a.guid == sub.reader.guid :=
        (congrArg Transport.attached released.transport :)
      intro a ha
      rw [attached] at ha
      exact known a (List.mem_of_mem_eraseP ha)
  | closed emptied _ _ _ => exact emptied.readers.attached ▸ known

theorem closed_step {s s' : Session} (closed : s.isOpen = false) (step : Step s s') :
    s'.isOpen = false := by
  cases step with
  | idle _ _ _ _ isOpen | tornDown _ _ _ _ _ _ isOpen => exact isOpen.trans closed
  | created _ _ _ _ wasOpen _ | failed _ _ _ wasOpen _ | closed _ _ wasOpen _ =>
      cases closed.symm.trans wasOpen

theorem act_shutdown_of_closed {s : Session} (closed : s.isOpen = false) :
    s.act .shutdown = s := by
  simp only [act, Site.shutdown_of_closed closed]

/-- Only a shutdown closes a participant. -/
theorem isOpen_act {s : Session} {a : Action} (other : a ≠ .shutdown) :
    (s.act a).isOpen = s.isOpen := by
  cases a with
  | create r =>
      have same := s.site.participant_create r
      simp only [act]
      split <;> rename_i left <;> rw [left] at same <;> exact congrArg Participant.isOpen same
  | drop place => exact (tornDown_drop s place).isOpen
  | destroy place implementation => exact (tornDown_destroy s place implementation).isOpen
  | shutdown => exact absurd rfl other
  | switch _ | configure _ | deliver _ | matchPublishers _ _ | take _ => rfl

theorem isOpen_run {s : Session} {actions : List Action} (never : .shutdown ∉ actions) :
    (s.run actions).isOpen = s.isOpen := by
  induction actions generalizing s with
  | nil => rfl
  | cons a actions ih =>
      rw [List.mem_cons, not_or] at never
      exact (ih never.2).trans (isOpen_act (Ne.symm never.1))

end Session

end RosMiddleware
