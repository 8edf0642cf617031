import RosMiddleware.Domain
import RosMiddleware.Proofs.ShutdownResidue

/-!
Two participants over one transport, the second of which comes when the first has been shut
down with success. The first leaves an empty registry, which stays empty, so the holds of
its subscriptions find nothing to release: whatever the second registers under the same
names in its own registry is safe from them.
-/
namespace RosMiddleware

def Domain.ofSite (s : Site) : Domain where
  transports := #[s.registrar.transport]
  registries := #[s.registrar.registry]
  members := #[⟨s.participant, 0, 0⟩]
  listeners := s.listeners
  built := s.registrar.built
  journal := s.journal

inductive Party
  | retired
  | successor
deriving DecidableEq

def Party.place : Party → ParticipantId
  | .retired => 0
  | .successor => 1

structure Succession where
  domain : Domain
  live : Party → List Subscription

namespace Succession

/-- The session is followed by another participant over its transport. -/
def ofSession (s : Session) (settings : Settings) : Succession where
  domain := ((Domain.ofSite s.site).addParticipant 0 settings).2
  live
    | .retired => s.live
    | .successor => []

def session (c : Succession) (p : Party) : Session := ⟨c.domain.site p.place, c.live p⟩

def transport (c : Succession) : Transport := c.domain.transport 0

def act (c : Succession) (p : Party) (a : Session.Action) : Succession where
  domain := c.domain.putSite p.place ((c.session p).act a).site
  live q := if q = p then ((c.session p).act a).live else c.live q

def run (c : Succession) (actions : List (Party × Session.Action)) : Succession :=
  actions.foldl (fun c action => c.act action.1 action.2) c

end Succession

/-- The two participants are in place: they share the transport, but no registry. -/
structure Domain.Shared (d : Domain) : Prop where
  transports : ∃ t, d.transports = #[t]
  registries : ∃ r r', d.registries = #[r, r']
  members : ∃ a b, d.members = #[⟨a, 0, 0⟩, ⟨b, 0, 1⟩]

namespace Domain.Shared

variable {d : Domain}

theorem putSite (shared : Shared d) (p : Party) (s : Site) : Shared (d.putSite p.place s) := by
  obtain ⟨⟨t, ht⟩, ⟨r, r', hr⟩, ⟨a, b, hm⟩⟩ := shared
  cases d
  subst ht hr hm
  cases p <;> exact ⟨⟨_, rfl⟩, ⟨_, _, rfl⟩, ⟨_, _, rfl⟩⟩

theorem transport_site (shared : Shared d) (p : Party) :
    (d.site p.place).registrar.transport = d.transport 0 := by
  obtain ⟨⟨t, ht⟩, ⟨r, r', hr⟩, ⟨a, b, hm⟩⟩ := shared
  cases d
  subst ht hr hm
  cases p <;> rfl

theorem site_putSite (shared : Shared d) (p : Party) (s : Site) :
    (d.putSite p.place s).site p.place = s := by
  obtain ⟨⟨t, ht⟩, ⟨r, r', hr⟩, ⟨a, b, hm⟩⟩ := shared
  cases d
  subst ht hr hm
  cases p <;> rfl

/-- The other participant keeps its own, and sees what has become of the rest. -/
theorem site_putSite_of_ne (shared : Shared d) {p q : Party} (apart : q ≠ p) (s : Site) :
    (d.putSite p.place s).site q.place = { s with
      participant := (d.site q.place).participant
      registrar := { s.registrar with registry := (d.site q.place).registrar.registry } } := by
  obtain ⟨⟨t, ht⟩, ⟨r, r', hr⟩, ⟨a, b, hm⟩⟩ := shared
  cases d
  subst ht hr hm
  cases p <;> cases q <;> first | rfl | exact absurd rfl apart

end Domain.Shared

namespace Registrar

theorem release_of_empty {s : Registrar} (empty : s.registry.entries = ∅) (typeName : String) :
    s.release typeName = (.ok (), s) := by
  simp [release, empty]

theorem drop_of_empty {s : Registrar} (empty : s.registry.entries = ∅) (sub : Subscription) :
    (s.drop sub).1 = s.withoutReader sub := by
  rw [drop_fst, release_of_empty (s := s.withoutReader sub) empty]

end Registrar

namespace Subscription

theorem Request.check_of_closed (r : Request) :
    ∃ e, r.check false = .error e ∧ e.kind = .invalidArgument := by
  by_cases untitled : r.topic = ""
  · exact ⟨.emptyTopic, by simp [check, untitled], rfl⟩
  · exact ⟨.participantShutDown, by simp [check, untitled], rfl⟩

end Subscription

namespace Session

structure Inert (s : Session) : Prop where
  closed : s.isOpen = false
  empty : s.registry.entries = ∅
  tagged : Tagged s

/-- Readers may have gone, and the listeners and the switches may have changed. -/
structure Idles (s s' : Session) : Prop where
  isOpen : s'.isOpen = s.isOpen
  registry : s'.registry = s.registry
  types : s'.transport.types = s.transport.types
  attached : s'.transport.attached ⊆ s.transport.attached
  live : s'.live ⊆ s.live

variable {s s' : Session}

theorem Inert.of_idles (inert : Inert s) (idles : Idles s s') : Inert s' where
  closed := idles.isOpen.trans inert.closed
  empty := idles.registry ▸ inert.empty
  tagged sub alive := inert.tagged sub (idles.live alive)

theorem Inert.create (inert : Inert s) (r : Subscription.Request) :
    ∃ e journal, s.site.create r = (.error e, { s.site with journal := journal }) ∧
      e.kind = .invalidArgument := by
  obtain ⟨e, refused, kind⟩ := r.check_of_closed
  rw [← inert.closed] at refused
  exact ⟨e, _, by simp only [Site.create, refused]; rfl, kind⟩

theorem Inert.destroy (inert : Inert s) {sub : Subscription} (alive : sub ∈ s.live) :
    (s.site.destroy sub).1 = .ok () := by
  have released := Registrar.release_of_empty (s := s.registrar.withoutReader sub) inert.empty
    sub.typeName
  rw [Site.destroy_of_released (inert.tagged sub alive) (congrArg Prod.fst released)]

theorem Inert.tornDown (inert : Inert s) {place : Nat} (tornDown : TornDown s place s') :
    Idles s s' := by
  cases tornDown with
  | nobody => exact ⟨rfl, rfl, rfl, List.Subset.refl _, List.Subset.refl _⟩
  | gone sub journal alive =>
      rw [Registrar.drop_of_empty inert.empty]
      exact ⟨rfl, rfl, rfl, List.eraseP_subset, List.eraseIdx_subset⟩

/-- Nothing that is done to the first participant gets to a type again. -/
theorem Inert.act (inert : Inert s) (a : Action) : Idles s (s.act a) := by
  cases a with
  | create r =>
      obtain ⟨e, journal, refused, _⟩ := inert.create r
      simp only [Session.act, refused]
      exact ⟨rfl, rfl, rfl, List.Subset.refl _, List.Subset.refl _⟩
  | drop place => exact inert.tornDown (tornDown_drop s place)
  | destroy place implementation => exact inert.tornDown (tornDown_destroy s place implementation)
  | shutdown =>
      rw [act_shutdown_of_closed inert.closed]
      exact ⟨rfl, rfl, rfl, List.Subset.refl _, List.Subset.refl _⟩
  | switch _ | configure _ | deliver _ | matchPublishers _ _ | take _ =>
      exact ⟨rfl, rfl, rfl, List.Subset.refl _, List.Subset.refl _⟩

/-- A session that ends with its first shutdown, a successful one. -/
theorem inert_of_shutdown (settings : Settings) (number : Nat) {before : List Action}
    (first : .shutdown ∉ before)
    (done : ((fresh settings number).run before).site.shutdown.1 = .ok ()) :
    Inert (((fresh settings number).run before).act .shutdown) := by
  have accounts := accounts_of_run settings number before
  exact {
    closed := isOpen_act_shutdown _
    empty := empty_of_first_shutdown accounts (isOpen_run first) done
    tagged := tagged_step (tagged_of_run settings number before) (accounts.step .shutdown) }

end Session

namespace Succession

variable {c : Succession} {p q : Party}

theorem session_act (shared : c.domain.Shared) (p : Party) (a : Session.Action) :
    (c.act p a).session p = (c.session p).act a := by
  have site := shared.site_putSite p ((c.session p).act a).site
  simp only [session, act] at site ⊢
  rw [site, if_true]

theorem session_act_of_ne (shared : c.domain.Shared) (apart : q ≠ p) (a : Session.Action) :
    (c.act p a).session q = { (c.session q) with site := { ((c.session p).act a).site with
      participant := (c.session q).site.participant
      registrar := { ((c.session p).act a).registrar with
        registry := (c.session q).registry } } } := by
  have site := shared.site_putSite_of_ne apart ((c.session p).act a).site
  simp only [session, act] at site ⊢
  rw [site, if_neg apart]

theorem transport_session (shared : c.domain.Shared) (p : Party) :
    (c.session p).transport = c.transport :=
  shared.transport_site p

/-- The first participant is inert, and the second alone works on the types. -/
structure Orderly (c : Succession) : Prop where
  shared : c.domain.Shared
  inert : (c.session .retired).Inert
  agrees : (c.session .successor).registrar.Agrees
  known : ∀ a ∈ c.transport.attached, a.guid ≠ .unknown

theorem orderly_ofSession {s : Session} (accounts : s.Accounts) (inert : s.Inert)
    (settings : Settings) : Orderly (ofSession s settings) where
  shared := ⟨⟨_, rfl⟩, ⟨_, _, rfl⟩, ⟨_, _, rfl⟩⟩
  inert := inert
  agrees typeName := by
    have bare : s.transport.types = ∅ := accounts.agrees.types_eq_empty inert.empty
    change s.transport.types[typeName]? = TypeRegistry.lookup {} typeName
    simp [bare, TypeRegistry.lookup]
  known := accounts.known

/-- What the first participant does passes the second by. -/
theorem retired_act (orderly : Orderly c) (a : Session.Action) :
    (c.act .retired a).transport.types = c.transport.types ∧
      ((c.act .retired a).session .successor).registry = (c.session .successor).registry := by
  have other := session_act_of_ne orderly.shared (q := .successor) (p := .retired) (by decide) a
  constructor
  · have shared : (c.act .retired a).domain.Shared := orderly.shared.putSite .retired _
    rw [← transport_session shared .retired, session_act orderly.shared,
      (orderly.inert.act a).types, transport_session orderly.shared]
  · rw [other]

/-- Of the two only the second works on types, so what the first does cannot take any from it. -/
theorem orderly_act (orderly : Orderly c) (p : Party) (a : Session.Action) :
    Orderly (c.act p a) := by
  have shared : (c.act p a).domain.Shared := orderly.shared.putSite p _
  have own := session_act orderly.shared p a
  cases p with
  | retired =>
      have idles := orderly.inert.act a
      obtain ⟨types, registry⟩ := retired_act orderly a
      refine ⟨shared, own ▸ orderly.inert.of_idles idles, ?_, ?_⟩
      · rw [← transport_session shared .successor,
          ← transport_session orderly.shared .successor] at types
        exact orderly.agrees.congr (congrArg TypeRegistry.entries registry) types
      · intro attachment attached
        rw [← transport_session shared .retired, own] at attached
        have before := idles.attached attached
        rw [transport_session orderly.shared] at before
        exact orderly.known attachment before
  | successor =>
      have known : ∀ attachment ∈ (c.session .successor).transport.attached,
          attachment.guid ≠ .unknown := by
        rw [transport_session orderly.shared]
        exact orderly.known
      have step := Session.act_step (c.session .successor) orderly.agrees known a
      have other :=
        session_act_of_ne orderly.shared (q := .retired) (p := .successor) (by decide) a
      refine ⟨shared, ?_, own ▸ step.agrees orderly.agrees, ?_⟩
      · rw [other]
        exact ⟨orderly.inert.closed, orderly.inert.empty, orderly.inert.tagged⟩
      · rw [← transport_session shared .successor, own]
        exact step.known known

theorem orderly_run (orderly : Orderly c) (actions : List (Party × Session.Action)) :
    Orderly (c.run actions) := by
  induction actions generalizing c with
  | nil => exact orderly
  | cons action actions ih => exact ih (orderly_act orderly action.1 action.2)

/-- Whatever the two do in turn, the first participant creates nothing more, and what it
tears down neither fails nor touches the types and the registry of the second. -/
theorem successor_undisturbed (settings settings' : Settings) (number : Nat)
    (before : List Session.Action) (first : .shutdown ∉ before)
    (done : ((Session.fresh settings number).run before).site.shutdown.1 = .ok ())
    (actions : List (Party × Session.Action)) :
    let s := ((Session.fresh settings number).run before).act .shutdown
    let c := (ofSession s settings').run actions
    (∀ r, ∃ e, ((c.session .retired).site.create r).1 = .error e ∧
        e.kind = .invalidArgument) ∧
      (∀ a, (c.act .retired a).transport.types = c.transport.types ∧
        ((c.act .retired a).session .successor).registry =
          (c.session .successor).registry) ∧
      (∀ sub ∈ c.live .retired, ((c.session .retired).site.destroy sub).1 = .ok ()) ∧
      (c.session .successor).registrar.Agrees := by
  intro s c
  have opened := Session.accounts_of_run settings number before
  have accounts : s.Accounts := Session.accounts_step opened (opened.step .shutdown)
  have inert : s.Inert := Session.inert_of_shutdown settings number first done
  have orderly : Orderly c := orderly_run (orderly_ofSession accounts inert settings') actions
  refine ⟨?_, retired_act orderly, fun sub alive => orderly.inert.destroy alive, orderly.agrees⟩
  intro r
  obtain ⟨e, _, refused, kind⟩ := orderly.inert.create r
  exact ⟨e, by rw [refused], kind⟩

/-- The second holds the type that the first has left a subscription of. -/
theorem successor_undisturbed_same_type :
    let create := Session.Action.create (Session.stringRequest "chatter")
    let s := ((Session.fresh {} 1).run [create, create]).act .shutdown
    let actions := [(Party.successor, create), (.retired, .drop 0),
      (.successor, .switch { unregisterType := true })]
    let c := (ofSession s {}).run actions
    ((Session.fresh {} 1).run [create, create]).site.shutdown.1 = .ok () ∧
      (c.live .retired).length = 1 ∧
      (c.session .successor).registry.holders "std_msgs::msg::dds_::String_" = 1 ∧
      (∀ a, (c.act .retired a).transport.types = c.transport.types ∧
        ((c.act .retired a).session .successor).registry =
          (c.session .successor).registry) ∧
      ∀ sub ∈ c.live .retired, ((c.session .retired).site.destroy sub).1 = .ok () := by
  intro create s actions c
  have agrees := (Session.accounts_of_run {} 1 [create, create]).agrees
  have done : ((Session.fresh {} 1).run [create, create]).site.shutdown.1 = .ok () := by
    rw [Site.shutdown_fst (by decide +kernel),
      Registrar.unregisterAll_of_accepted agrees (by decide +kernel)]
  have first : Session.Action.shutdown ∉ [create, create] := by simp [create]
  have held : (c.session .successor).registry.holders "std_msgs::msg::dds_::String_" = 1 := by
    decide +kernel
  have undisturbed : _ ∧ (∀ a, (c.act .retired a).transport.types = c.transport.types ∧
      ((c.act .retired a).session .successor).registry = (c.session .successor).registry) ∧
      (∀ sub ∈ c.live .retired, ((c.session .retired).site.destroy sub).1 = .ok ()) ∧ _ :=
    successor_undisturbed {} {} 1 [create, create] first done actions
  exact ⟨done, by decide +kernel, held, undisturbed.2.1, undisturbed.2.2.1⟩

end Succession

end RosMiddleware
