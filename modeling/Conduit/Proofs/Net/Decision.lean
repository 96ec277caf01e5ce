import Conduit.Proofs.Net.AddressText
import Conduit.Proofs.Net.Resolution
import Conduit.Proofs.Net.Services
set_option autoImplicit false

namespace Conduit.Net

variable {resolver : Resolver} {host service : String} {port : UInt16}

theorem lookupHost_of_literal {literal : Host} (parsed : Host.parse? host = some literal) :
    lookupHost resolver host = ([], .ok [literal]) := by
  unfold lookupHost
  rw [parsed]

theorem not_parse?_of_nul (nul : Char.ofNat 0 ∈ host.toList) : Host.parse? host = none := by
  cases parsed : Host.parse? host with
  | none => rfl
  | some literal => exact absurd (Host.parse?_characters parsed _ nul) (by decide)

theorem lookupHost_of_nul (nul : Char.ofNat 0 ∈ host.toList) :
    lookupHost resolver host = ([], .error .nulByte) := by
  unfold lookupHost
  rw [not_parse?_of_nul nul]
  simp only [String.contains_char_eq, decide_eq_true nul, if_true]

structure IsName (host : String) : Prop where
  no_number (port : UInt16) (address : Address) : Address.parse host port ≠ .ok address
  no_nul : Char.ofNat 0 ∉ host.toList

theorem lookupHost_of_name (name : IsName host) : lookupHost resolver host = ([host], resolver host) := by
  have unparsed : Host.parse? host = none := by
    cases parsed : Host.parse? host with
    | none => rfl
    | some literal =>
      refine absurd ?_ (name.no_number 0 ⟨literal, 0⟩)
      exact Address.parse_eq_ok_iff.mpr ⟨parsed, rfl⟩
  unfold lookupHost
  rw [unparsed]
  simp only [String.contains_char_eq, decide_eq_false name.no_nul, Bool.false_eq_true, if_false]

def FailsAs (resolver : Resolver) (host service : String) (asked : List String) (error : TransportError) :
    Prop :=
  resolveAll resolver host service = ⟨asked, .error error⟩ ∧
    resolve resolver host service = ⟨asked, .error error⟩

theorem FailsAs.of_all {asked : List String} {error : TransportError}
    (all : resolveAll resolver host service = ⟨asked, .error error⟩) :
    FailsAs resolver host service asked error := by
  refine ⟨all, ?_⟩
  unfold resolve
  rw [all]
  rfl

theorem resolveAll_of_denotes (denotes : Denotes service port) :
    resolveAll resolver host service = resolveOnPort resolver host service port := by
  unfold resolveAll
  rw [servicePort_eq_ok_iff.mpr denotes]

theorem resolveAll_of_undenoted (undenoted : ∀ port, ¬Denotes service port) :
    resolveAll resolver host service = ⟨[], .error (.unknownService service)⟩ := by
  unfold resolveAll
  rw [servicePort_eq_error_iff.mpr ⟨rfl, undenoted⟩]

theorem failsAs_of_lookup {asked : List String} {fault : Fault} (denotes : Denotes service port)
    (looked : lookupHost resolver host = (asked, .error fault)) :
    FailsAs resolver host service asked (.unresolved host service fault) := by
  refine .of_all ?_
  rw [resolveAll_of_denotes denotes]
  unfold resolveOnPort
  rw [looked]

theorem asked_of_denotes (denotes : Denotes service port) :
    (resolveAll resolver host service).asked = (lookupHost resolver host).1 := by
  rw [resolveAll_of_denotes denotes]
  unfold resolveOnPort
  generalize lookupHost resolver host = looked
  obtain ⟨asked, fault | hosts⟩ := looked
  next => rfl
  next =>
    dsimp only
    split <;> rfl

theorem asked_cases (resolver : Resolver) (host service : String) :
    (resolveAll resolver host service).asked = [] ∨ (resolveAll resolver host service).asked = [host] := by
  rcases Classical.em (∃ port, Denotes service port) with ⟨port, denotes⟩ | undenoted
  next =>
    rw [asked_of_denotes denotes]
    unfold lookupHost
    split
    next => exact .inl rfl
    next =>
      split
      next => exact .inl rfl
      next => exact .inr rfl
  next =>
    rw [resolveAll_of_undenoted (not_exists.mp undenoted)]
    exact .inl rfl

theorem preferred_singleton (address : Address) : preferred [address] = [address] := by
  rw [preferred, List.eraseDups_cons, List.filter_nil, List.eraseDups_nil, List.mergeSort_singleton]

theorem resolveAll_of_literal {literal : Host} (denotes : Denotes service port)
    (parsed : Host.parse? host = some literal) :
    resolveAll resolver host service = ⟨[], .ok [⟨literal, port⟩]⟩ := by
  rw [resolveAll_of_denotes denotes]
  unfold resolveOnPort
  rw [lookupHost_of_literal parsed]
  simp only [List.map_cons, List.map_nil, preferred_singleton]

theorem resolve_of_literal {literal : Host} (denotes : Denotes service port)
    (parsed : Host.parse? host = some literal) :
    resolve resolver host service = ⟨[], .ok ⟨literal, port⟩⟩ := by
  unfold resolve
  rw [resolveAll_of_literal denotes parsed]
  rfl

theorem resolve_literal {literal : Host} (parsed : Host.parse? host = some literal)
    (found : servicePort service = .ok port) (resolver : Resolver) :
    (resolve resolver host service).outcome = .ok ⟨literal, port⟩ := by
  rw [resolve_of_literal (servicePort_eq_ok_iff.mp found) parsed]

theorem resolveAll_congr {other : Resolver} (same : resolver host = other host) :
    resolveAll resolver host service = resolveAll other host service := by
  unfold resolveAll resolveOnPort lookupHost
  rw [same]

/-- What is decided by a host and a service, for all resolvers. Of service, number, NUL character and name
the first that applies is what counts, and one of them does. -/
structure Decided (host service : String) : Prop where
  no_service (resolver : Resolver) : (∀ port, ¬Denotes service port) →
    FailsAs resolver host service [] (.unknownService service)
  number (resolver : Resolver) (port : UInt16) (address : Address) : Denotes service port →
    Address.parse host port = .ok address →
      resolveAll resolver host service = ⟨[], .ok [address]⟩ ∧
        resolve resolver host service = ⟨[], .ok address⟩
  nul (resolver : Resolver) (port : UInt16) : Denotes service port → Char.ofNat 0 ∈ host.toList →
    ∃ fault, fault.kind = .invalidInput ∧
      FailsAs resolver host service [] (.unresolved host service fault)
  asks_once (resolver : Resolver) (port : UInt16) : Denotes service port → IsName host →
    (resolveAll resolver host service).asked = [host] ∧ (resolve resolver host service).asked = [host]
  refused (resolver : Resolver) (port : UInt16) (fault : Fault) : Denotes service port → IsName host →
    resolver host = .error fault → FailsAs resolver host service [host] (.unresolved host service fault)
  asks_only (resolver other : Resolver) : resolver host = other host →
    resolveAll resolver host service = resolveAll other host service ∧
      resolve resolver host service = resolve other host service
  empty : host = "" → IsName host

theorem resolve_decided (host service : String) : Decided host service := by
  constructor
  case no_service =>
    intro resolver undenoted
    exact .of_all (resolveAll_of_undenoted undenoted)
  case number =>
    intro resolver port address denotes parsed
    obtain ⟨literal, rfl⟩ := Address.parse_eq_ok_iff.mp parsed
    exact ⟨resolveAll_of_literal denotes literal, resolve_of_literal denotes literal⟩
  case nul =>
    intro resolver port denotes nul
    exact ⟨.nulByte, rfl, failsAs_of_lookup denotes (lookupHost_of_nul nul)⟩
  case asks_once =>
    intro resolver port denotes name
    have asked : (resolveAll resolver host service).asked = [host] := by
      rw [asked_of_denotes denotes, lookupHost_of_name name]
    exact ⟨asked, asked⟩
  case refused =>
    intro resolver port fault denotes name refused
    have looked : lookupHost resolver host = ([host], resolver host) := lookupHost_of_name name
    exact failsAs_of_lookup denotes (refused ▸ looked)
  case asks_only =>
    intro resolver other same
    refine ⟨resolveAll_congr same, ?_⟩
    unfold resolve
    rw [resolveAll_congr same]
  case empty =>
    rintro rfl
    constructor
    case no_number =>
      intro port address parsed
      cases (Address.parse_eq_ok_iff.mp parsed).1
    case no_nul => exact List.not_mem_nil

-- With no resolver to be reached, a number still resolves, and a service that is none is what is reported.
theorem resolve_unreachable :
    let unreachable : Resolver := fun _ => .error NameFailure.tryAgain.fault
    resolveAll unreachable "::1" "gopher" = ⟨[], .error (.unknownService "gopher")⟩ ∧
      resolveAll unreachable "::1" "http" =
        ⟨[], .ok [⟨.v6 ⟨[0, 0, 0, 0, 0, 0, 0, 1], rfl⟩ 0, 80⟩]⟩ ∧
      resolveAll unreachable "" "http" =
        ⟨[""], .error (.unresolved "" "http" NameFailure.tryAgain.fault)⟩ := by
  have web : Denotes "http" 80 := servicePort_eq_ok_iff.mp (by decide +kernel)
  have gopher : ∀ port, ¬Denotes "gopher" port :=
    (servicePort_eq_error_iff.mp (by decide +kernel : servicePort "gopher" = .error (.unknownService "gopher"))).2
  exact ⟨((resolve_decided _ _).no_service _ gopher).1,
    ((resolve_decided _ _).number _ 80 _ web (by decide +kernel)).1,
    ((resolve_decided _ _).refused _ 80 _ web ((resolve_decided _ "http").empty rfl) rfl).1⟩

end Conduit.Net
