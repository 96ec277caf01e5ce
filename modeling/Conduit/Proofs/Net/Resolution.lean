import Conduit.Net.Lookup
import Mathlib.Data.List.Induction
import Mathlib.Data.List.Nodup
set_option autoImplicit false

namespace Conduit.Net

section Distinct

variable {α : Type} [BEq α] [LawfulBEq α]

theorem eraseDups_concat (items : List α) (item : α) :
    (items ++ [item]).eraseDups =
      if item ∈ items then items.eraseDups else items.eraseDups ++ [item] := by
  rw [List.eraseDups_append]
  by_cases known : item ∈ items <;> simp [List.removeAll, List.eraseDups_cons, known]

theorem nodup_eraseDups (items : List α) : items.eraseDups.Nodup := by
  induction items using List.reverseRecOn with
  | nil => exact List.nodup_nil
  | append_singleton items item ih =>
    rw [eraseDups_concat]
    split
    next => exact ih
    next unknown =>
      rw [← List.concat_eq_append]
      exact ih.concat (mt List.mem_eraseDups.mp unknown)

theorem eraseDups_pairwise_idxOf (items : List α) :
    items.eraseDups.Pairwise fun a b => items.idxOf a < items.idxOf b := by
  induction items using List.reverseRecOn with
  | nil => exact .nil
  | append_singleton items item ih =>
    -- One more item at the end moves none of those before it.
    have kept : items.eraseDups.Pairwise fun a b =>
        (items ++ [item]).idxOf a < (items ++ [item]).idxOf b := by
      refine ih.imp_of_mem fun {a b} first second before => ?_
      rw [List.idxOf_append_of_mem (List.mem_eraseDups.mp first),
        List.idxOf_append_of_mem (List.mem_eraseDups.mp second)]
      exact before
    rw [eraseDups_concat]
    split
    next => exact kept
    next unknown =>
      refine List.pairwise_append.mpr ⟨kept, List.pairwise_singleton _ _, fun a there b last => ?_⟩
      have known : a ∈ items := List.mem_eraseDups.mp there
      rw [List.mem_singleton.mp last, List.idxOf_append_of_mem known,
        List.idxOf_append_of_notMem unknown]
      exact Nat.lt_add_right _ (List.idxOf_lt_length_of_mem known)

end Distinct

def versionLe (a b : Address) : Bool := a.isV4 || !b.isV4

theorem versionLe_trans (a b c : Address) (first : versionLe a b = true)
    (second : versionLe b c = true) : versionLe a c = true := by
  unfold versionLe at *
  grind

theorem versionLe_total (a b : Address) : (versionLe a b || versionLe b a) = true := by
  unfold versionLe
  grind

def ofVersion (four : Bool) (addresses : List Address) : List Address :=
  addresses.filter (·.isV4 == four)

theorem isV4_of_mem {four : Bool} {addresses : List Address} {address : Address}
    (there : address ∈ ofVersion four addresses) : address.isV4 = four := by
  simpa using (List.mem_filter.mp there).2

theorem versions_of_sorted {addresses : List Address}
    (sorted : addresses.Pairwise fun a b => versionLe a b = true) :
    addresses = ofVersion true addresses ++ ofVersion false addresses := by
  induction addresses with
  | nil => rfl
  | cons address later ih =>
    obtain ⟨first, rest⟩ := List.pairwise_cons.mp sorted
    cases version : address.isV4 with
    | true => simpa [ofVersion, version] using ih rest
    | false =>
      -- Behind an endpoint of version 6 there are only such.
      have sixes : ∀ b ∈ later, b.isV4 = false := by simpa [versionLe, version] using first
      have none : later.filter (·.isV4 == true) = [] := by simpa using sixes
      have all : later.filter (·.isV4 == false) = later :=
        List.filter_eq_self.mpr (by simpa using sixes)
      rw [ofVersion, ofVersion, List.filter_cons_of_neg (by simp [version]),
        List.filter_cons_of_pos (by simp [version]), none, all, List.nil_append]

theorem ofVersion_mergeSort (four : Bool) (addresses : List Address) :
    ofVersion four (addresses.mergeSort versionLe) = ofVersion four addresses := by
  have alike : (ofVersion four addresses).Pairwise fun a b => versionLe a b = true := by
    refine List.pairwise_of_forall_mem_list fun a first b second => ?_
    rw [versionLe, isV4_of_mem first, isV4_of_mem second, Bool.or_not_self]
  -- Endpoints of one version are in order as they stand, so the sort leaves them in that order.
  have kept := (List.sublist_mergeSort versionLe_trans versionLe_total alike
    List.filter_sublist).filter (·.isV4 == four)
  have same := ((List.mergeSort_perm addresses versionLe).filter (·.isV4 == four)).length_eq
  rw [ofVersion, List.filter_filter] at kept
  simp only [Bool.and_self] at kept
  exact (kept.eq_of_length same.symm).symm

theorem preferred_eq (addresses : List Address) :
    preferred addresses =
      ofVersion true addresses.eraseDups ++ ofVersion false addresses.eraseDups := by
  have split := versions_of_sorted
    (List.pairwise_mergeSort versionLe_trans versionLe_total addresses.eraseDups)
  rwa [ofVersion_mergeSort, ofVersion_mergeSort] at split

theorem preferred_perm (addresses : List Address) :
    (preferred addresses).Perm addresses.eraseDups :=
  List.mergeSort_perm _ _

def CameUp (answered addresses : List Address) : Prop :=
  addresses.Pairwise fun a b => answered.idxOf a < answered.idxOf b

/-- The endpoints that were answered, those of version 4 in the order in which they came up first, and behind
them those of version 6 likewise. -/
structure Ranked (answered addresses : List Address) : Prop where
  versions : ∃ fours sixes, addresses = fours ++ sixes ∧
    (∀ address ∈ fours, address.isV4 = true) ∧ (∀ address ∈ sixes, address.isV4 = false) ∧
    CameUp answered fours ∧ CameUp answered sixes
  once : ∀ address ∈ answered, addresses.count address = 1
  only : ∀ address ∈ addresses, address ∈ answered

theorem preferred_ranked (answered : List Address) : Ranked answered (preferred answered) := by
  have came : CameUp answered answered.eraseDups := eraseDups_pairwise_idxOf answered
  have nodup : (preferred answered).Nodup :=
    (preferred_perm answered).nodup_iff.mpr (nodup_eraseDups answered)
  have mem (address : Address) : address ∈ preferred answered ↔ address ∈ answered :=
    (preferred_perm answered).mem_iff.trans List.mem_eraseDups
  constructor
  case versions =>
    exact ⟨_, _, preferred_eq answered, fun _ => isV4_of_mem, fun _ => isV4_of_mem,
      came.filter _, came.filter _⟩
  case once => exact fun address there => List.count_eq_one_of_mem nodup ((mem address).mpr there)
  case only => exact fun address there => (mem address).mp there

namespace Ranked

variable {answered addresses others : List Address}

theorem nodup (ranked : Ranked answered addresses) : addresses.Nodup := by
  refine List.nodup_iff_count_le_one.mpr fun address => ?_
  by_cases there : address ∈ addresses
  next => exact Nat.le_of_eq (ranked.once address (ranked.only address there))
  next => rw [List.count_eq_zero.mpr there]; exact Nat.zero_le 1

theorem mem_iff (ranked : Ranked answered addresses) (address : Address) :
    address ∈ addresses ↔ address ∈ answered := by
  refine ⟨ranked.only address, fun there => ?_⟩
  rw [← List.count_pos_iff, ranked.once address there]
  exact Nat.one_pos

def Before (answered : List Address) (a b : Address) : Prop :=
  if a.isV4 = b.isV4 then answered.idxOf a < answered.idxOf b else a.isV4 = true

theorem pairwise_before (ranked : Ranked answered addresses) :
    addresses.Pairwise (Before answered) := by
  obtain ⟨fours, sixes, rfl, four, six, first, second⟩ := ranked.versions
  refine List.pairwise_append.mpr ⟨?_, ?_, ?_⟩
  next =>
    refine first.imp_of_mem fun {a b} here there before => ?_
    rw [Before, four a here, four b there]
    exact before
  next =>
    refine second.imp_of_mem fun {a b} here there before => ?_
    rw [Before, six a here, six b there]
    exact before
  next =>
    intro a here b there
    rw [Before, four a here, six b there]
    exact rfl

theorem unique (ranked : Ranked answered addresses) (other : Ranked answered others) :
    addresses = others := by
  have perm : addresses.Perm others :=
    (List.perm_ext_iff_of_nodup ranked.nodup other.nodup).mpr fun address =>
      (ranked.mem_iff address).trans (other.mem_iff address).symm
  refine perm.eq_of_pairwise (fun a b _ _ before after => ?_) ranked.pairwise_before
    other.pairwise_before
  -- No two endpoints stand before each other.
  unfold Before at before after
  grind

end Ranked

theorem ranked_iff {answered addresses : List Address} :
    Ranked answered addresses ↔ addresses = preferred answered :=
  ⟨fun ranked => ranked.unique (preferred_ranked answered),
    fun same => same ▸ preferred_ranked answered⟩

theorem preferred_eq_nil_iff {answered : List Address} : preferred answered = [] ↔ answered = [] := by
  have ranked := preferred_ranked answered
  simp only [List.eq_nil_iff_forall_not_mem, ranked.mem_iff]

variable {resolver : Resolver} {host service : String}

theorem resolveAll_outcome {port : UInt16} {hosts : List Host}
    (found : servicePort service = .ok port) (answered : (lookupHost resolver host).2 = .ok hosts) :
    (resolveAll resolver host service).outcome =
      if hosts = [] then .error (.noAddress host service)
      else .ok (preferred (hosts.map (⟨·, port⟩))) := by
  have empty : preferred (hosts.map (⟨·, port⟩)) = [] ↔ hosts = [] := by
    rw [preferred_eq_nil_iff, List.map_eq_nil_iff]
  unfold resolveAll resolveOnPort
  generalize lookupHost resolver host = looked at answered
  obtain ⟨asked, outcome⟩ := looked
  cases answered
  simp only [found]
  split
  next none => rw [if_pos (empty.mp none)]
  next some => rw [if_neg (mt empty.mpr some)]

theorem resolveAll_ne_nil : (resolveAll resolver host service).outcome ≠ .ok [] := by
  unfold resolveAll
  split
  next => simp
  next port found =>
    unfold resolveOnPort
    split
    next => simp
    next => split <;> simp_all

theorem resolve_of_ok {address : Address} {later : List Address}
    (all : (resolveAll resolver host service).outcome = .ok (address :: later)) :
    (resolve resolver host service).outcome = .ok address := by
  simp only [resolve, all]
  rfl

theorem resolve_of_error {error : TransportError}
    (all : (resolveAll resolver host service).outcome = .error error) :
    (resolve resolver host service).outcome = .error error := by
  simp only [resolve, all]
  rfl

/-- What a host and a service on a port resolve to, if `hosts` is what was answered. -/
structure Resolution (resolver : Resolver) (host service : String) (port : UInt16)
    (hosts : List Host) : Prop where
  noAddress_iff : (resolveAll resolver host service).outcome = .error (.noAddress host service) ↔
    hosts = []
  found : hosts ≠ [] → ∃ addresses, (resolveAll resolver host service).outcome = .ok addresses
  ok_iff (addresses : List Address) : (resolveAll resolver host service).outcome = .ok addresses ↔
    hosts ≠ [] ∧ Ranked (hosts.map (⟨·, port⟩)) addresses
  nonempty : (resolveAll resolver host service).outcome ≠ .ok []
  preferred_head (address : Address) (later : List Address) :
    (resolveAll resolver host service).outcome = .ok (address :: later) →
      (resolve resolver host service).outcome = .ok address
  same_error (error : TransportError) :
    (resolveAll resolver host service).outcome = .error error →
      (resolve resolver host service).outcome = .error error

theorem resolve_ranks {port : UInt16} {hosts : List Host} (found : servicePort service = .ok port)
    (answered : (lookupHost resolver host).2 = .ok hosts) :
    Resolution resolver host service port hosts := by
  have outcome := resolveAll_outcome found answered
  constructor
  case noAddress_iff => rw [outcome]; split <;> simp_all
  case found =>
    intro some
    exact ⟨_, outcome.trans (if_neg some)⟩
  case ok_iff =>
    intro addresses
    rw [outcome, ranked_iff]
    split
    next none => simp [none]
    next some => simp [some, eq_comm]
  case nonempty => exact resolveAll_ne_nil
  case preferred_head => exact fun address later => resolve_of_ok
  case same_error => exact fun error => resolve_of_error

-- Two endpoints come up again, and two are told apart by their scope alone.
def mixedHosts : List Host :=
  let local6 (scope : UInt32) : Host := .v6 ⟨[0xfe80, 0, 0, 0, 0, 0, 0, 1], rfl⟩ scope
  [local6 2, .v4 ⟨10, 0, 0, 2⟩, local6 1, .v4 ⟨10, 0, 0, 2⟩, .v4 ⟨10, 0, 0, 1⟩, local6 2]

def mixedAddresses : List Address :=
  [⟨.v4 ⟨10, 0, 0, 2⟩, 80⟩, ⟨.v4 ⟨10, 0, 0, 1⟩, 80⟩,
    ⟨.v6 ⟨[0xfe80, 0, 0, 0, 0, 0, 0, 1], rfl⟩ 2, 80⟩,
    ⟨.v6 ⟨[0xfe80, 0, 0, 0, 0, 0, 0, 1], rfl⟩ 1, 80⟩]

theorem mixed_ranked : Ranked (mixedHosts.map (⟨·, 80⟩)) mixedAddresses :=
  { versions := ⟨mixedAddresses.take 2, mixedAddresses.drop 2, rfl, by decide, by decide,
      by unfold CameUp; decide, by unfold CameUp; decide⟩
    once := by decide
    only := by decide }

theorem resolve_mixed :
    servicePort "HTTP" = .ok 80 ∧
      (lookupHost (fun _ => .ok mixedHosts) "web.test").2 = .ok mixedHosts ∧
      (resolveAll (fun _ => .ok mixedHosts) "web.test" "HTTP").outcome = .ok mixedAddresses ∧
      (resolve (fun _ => .ok mixedHosts) "web.test" "HTTP").outcome =
        .ok ⟨.v4 ⟨10, 0, 0, 2⟩, 80⟩ := by
  have found : servicePort "HTTP" = .ok 80 := by decide +kernel
  have named : Host.parse? "web.test" = none := by decide +kernel
  have plain : "web.test".contains (Char.ofNat 0) = false := by
    rw [String.contains_char_eq]
    decide
  have answered : (lookupHost (fun _ => .ok mixedHosts) "web.test").2 = .ok mixedHosts := by
    unfold lookupHost
    simp only [named, plain, Bool.false_eq_true, if_false]
  have resolution := resolve_ranks found answered
  have all := (resolution.ok_iff mixedAddresses).mpr ⟨by simp [mixedHosts], mixed_ranked⟩
  exact ⟨found, answered, all, resolution.preferred_head _ _ all⟩

end Conduit.Net
