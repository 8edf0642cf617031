import RosMiddleware.Proofs.SessionAccounts
import RosMiddleware.Proofs.TypeSelection

/-!
Creations that fail. Wherever the failure strikes, the readers, the listeners, the holders
and the live subscriptions are those from before. The one trace that can be left is at a
type without holders, when the unregistration of the unwinding goes another way than the
registration before it did.
-/
namespace RosMiddleware

namespace Subscription.Request

variable {r : Request} {support : TypeSupport}

def AsksFor (r : Request) (typeName : String) : Prop :=
  ∃ support, TypeSupport.Preferred r.offered support ∧ support.type.Named typeName

theorem asksFor_iff (preferred : TypeSupport.Preferred r.offered support) {typeName : String} :
    r.AsksFor typeName ↔ typeName = support.type.typeName := by
  constructor
  · intro asks
    obtain ⟨other, another, named⟩ := asks
    rw [preferred.unique another, MessageType.named_iff.mp named]
  · rintro rfl
    exact ⟨support, preferred, MessageType.named_iff.mpr rfl⟩

/-- A request passes the check only with a support that was offered. -/
theorem preferred_of_check {isOpen : Bool} (h : r.check isOpen = .ok support) :
    TypeSupport.Preferred r.offered support := by
  rw [← TypeSupport.select_ok_iff]
  unfold check at h
  split at h
  · cases h
  split at h
  · cases h
  split at h
  · cases h
  · rename_i selected selects
    split at h
    · cases h
    · cases h
      exact selects

end Subscription.Request

/-- The place that is used up for a listener looks like any other place without one. -/
theorem Listeners.find_push (ls : Listeners) (l : ListenerId) :
    find (ls.push {}) l = find ls l := by
  rw [find, find, Array.getD_eq_getD_getElem?, Array.getD_eq_getD_getElem?, Array.getElem?_push]
  split
  · rename_i atEnd
    simp [atEnd]
  · rfl

namespace Registrar

/-- A type without holders was new and could not be unregistered again, or it had been left
over and now could. -/
inductive Residue (typeName : String) (s s' : Registrar) : Prop
  | leftOver (uncached : typeName ∉ s.registry.entries)
      (unregistered : typeName ∉ s.transport.types)
      (refused : s.transport.faults.unregisterType = true)
      (cached : ∃ a, s'.registry.entries[typeName]? = some ⟨a, 0⟩)
      (registered : typeName ∈ s'.transport.types)
  | cleared (cached : ∃ a, s.registry.entries[typeName]? = some ⟨a, 0⟩)
      (registered : typeName ∈ s.transport.types)
      (accepted : s.transport.faults.unregisterType = false)
      (uncached : typeName ∉ s'.registry.entries)
      (unregistered : typeName ∉ s'.transport.types)

/-- Only the entry of the type that was held for a while can have changed. -/
theorem Unwound.residue {typeName : String} {s s' : Registrar} (agrees : s.Agrees)
    (unwound : Unwound typeName s s') (other : String) :
    s'.registry.entries[other]? = s.registry.entries[other]? ∧
        s'.transport.types[other]? = s.transport.types[other]? ∨
      typeName = other ∧ Residue typeName s s' := by
  cases unwound with
  | restored entries types => exact .inl ⟨by rw [entries], by rw [types]⟩
  | leftOver a absent _ refused entries types =>
      by_cases h : typeName = other
      · have uncached := table_not_mem_of_none _ absent
        have unregistered := mt (agrees.mem_iff typeName).mp uncached
        exact .inr ⟨h, .leftOver uncached unregistered refused ⟨a, by simp [entries]⟩
          (by simp [types])⟩
      · exact .inl ⟨by simp [entries, Std.ExtTreeMap.getElem?_insert, h],
          by simp [types, Std.ExtTreeMap.getElem?_insert, h]⟩
  | cleared a idle accepted entries types =>
      by_cases h : typeName = other
      · have registered := table_mem_of_some _ (agrees.types_of_some idle)
        exact .inr ⟨h, .cleared ⟨a, idle⟩ registered accepted (by simp [entries])
          (by simp [types])⟩
      · exact .inl ⟨by simp [entries, Std.ExtTreeMap.getElem?_erase, h],
          by simp [types, Std.ExtTreeMap.getElem?_erase, h]⟩

end Registrar

namespace Session

open Registrar (RolledBack Residue)

theorem act_create_failed {s : Session} {r : Subscription.Request} {e : Error}
    (failed : (s.site.create r).1 = .error e) :
    s.act (.create r) = { s with site := (s.site.create r).2 } := by
  rcases called : s.site.create r with ⟨outcome, site⟩
  rw [called] at failed
  obtain rfl : outcome = .error e := failed
  simp only [act, called]

/-- A creation that failed left everything alone, or it got as far as the registry. -/
theorem create_error {s : Session} {r : Subscription.Request} {e : Error}
    (accounts : Accounts s) (failed : (s.site.create r).1 = .error e) :
    (s.act (.create r)).live = s.live ∧
      (∀ l, Listeners.find (s.act (.create r)).site.listeners l =
        Listeners.find s.site.listeners l) ∧
      ((s.act (.create r)).registrar = s.registrar ∨
        ∃ support, r.check s.isOpen = .ok support ∧
          RolledBack support.type.typeName s.registrar (s.act (.create r)).registrar) := by
  rw [act_create_failed failed]
  rcases s.site.create_cases r with ⟨_, journal, left⟩ |
    ⟨support, outcome, registrar, events, journal, checked, established, left⟩
  · rw [left]
    exact ⟨rfl, fun _ => rfl, .inl rfl⟩
  · rw [left] at failed ⊢
    obtain rfl : outcome = .error e := failed
    have rolledBack := Registrar.establish_error accounts.agrees accounts.known established
    refine ⟨rfl, ?_, .inr ⟨support, checked, rolledBack⟩⟩
    intro l
    cases r.wantsListener with
    | true => exact Listeners.find_push s.site.listeners l
    | false => rfl

/-- A creation that fails leaves readers, listeners, holders and live subscriptions as they were. A
type that nobody holds may have come or gone with it, if the transport refused to unregister it, now
or before. -/
theorem creation_rollback (settings : Settings) (number : Nat) (actions : List Action)
    (r : Subscription.Request) (e : Error)
    (failed : (((fresh settings number).run actions).site.create r).1 = .error e) :
    let s := (fresh settings number).run actions
    let s' := s.act (.create r)
    s'.transport.liveReaders = s.transport.liveReaders ∧
      s'.transport.attached = s.transport.attached ∧
      (∀ typeName, s'.registry.holders typeName = s.registry.holders typeName) ∧
      s'.live = s.live ∧
      (∀ l, Listeners.find s'.site.listeners l = Listeners.find s.site.listeners l) ∧
      ∀ typeName,
        s'.registry.entries[typeName]? = s.registry.entries[typeName]? ∧
            s'.transport.types[typeName]? = s.transport.types[typeName]? ∨
          r.AsksFor typeName ∧ Residue typeName s.registrar s'.registrar := by
  intro s s'
  have accounts : Accounts s := accounts_of_run settings number actions
  obtain ⟨live, listeners, effect⟩ := create_error accounts failed
  rcases effect with same | ⟨support, checked, rolledBack⟩
  · have registry : s'.registry = s.registry := congrArg Registrar.registry same
    have transport : s'.transport = s.transport := congrArg Registrar.transport same
    rw [registry, transport]
    exact ⟨rfl, rfl, fun _ => rfl, live, listeners, fun _ => .inl ⟨rfl, rfl⟩⟩
  · have readers := rolledBack.readers
    have unwound := rolledBack.unwound
    refine ⟨readers.live, readers.attached, unwound.holders, live, listeners, ?_⟩
    intro typeName
    have preferred := Subscription.Request.preferred_of_check checked
    rcases unwound.residue accounts.agrees typeName with same | ⟨rfl, residue⟩
    · exact .inl same
    · exact .inr ⟨(Subscription.Request.asksFor_iff preferred).mpr rfl, residue⟩

/-- A type that was left over goes with the creation that fails. -/
theorem creation_rollback_left_over :
    let s := (fresh {} 1).run [.create (stringRequest "chatter"),
      .switch { unregisterType := true }, .drop 0, .switch { createReader := true }]
    let s' := s.act (.create (stringRequest "chatter"))
    (s.site.create (stringRequest "chatter")).1 = .error (.readerCreation .readerRejected) ∧
      s'.transport.liveReaders = s.transport.liveReaders ∧
      s'.transport.attached = s.transport.attached ∧
      (∀ typeName, s'.registry.holders typeName = s.registry.holders typeName) ∧
      Residue "std_msgs::msg::dds_::String_" s.registrar s'.registrar := by
  intro s s'
  have failed : (s.site.create (stringRequest "chatter")).1 =
      .error (.readerCreation .readerRejected) := by rfl
  obtain ⟨readers, attached, holders, _, _, types⟩ := creation_rollback {} 1 _ _ _ failed
  refine ⟨failed, readers, attached, holders, ?_⟩
  rcases types "std_msgs::msg::dds_::String_" with ⟨cached, _⟩ | ⟨_, residue⟩
  · have gone : (s'.registry.entries["std_msgs::msg::dds_::String_"]?).isSome ≠
        (s.registry.entries["std_msgs::msg::dds_::String_"]?).isSome := by decide +kernel
    exact absurd (congrArg Option.isSome cached) gone
  · exact residue

end Session

end RosMiddleware
