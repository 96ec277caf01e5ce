import Conduit.Toml.Document
set_option autoImplicit false

namespace Conduit.Toml

def Node.InRange (node : Node) : Prop :=
  ∀ value, node = .integer value → lowestInteger ≤ value ∧ value ≤ highestInteger

theorem Node.table_inRange (form : Form) (entries : Entries) : (table form entries).InRange := nofun

theorem Node.tables_inRange (elements : List Entries) : (tables elements).InRange := nofun

namespace Entries

variable {entries after : Entries} {name : String} {node : Node} {label : Label}

def names (entries : Entries) : List String := entries.map (·.1.name)

structure Proper (entries : Entries) : Prop where
  distinct : entries.names.Nodup
  inRange : ∀ entry ∈ entries, entry.2.InRange

theorem empty_proper : Proper [] := ⟨List.nodup_nil, nofun⟩

theorem find?_eq_none_iff : entries.find? name = none ↔ name ∉ entries.names := by
  simp [find?, names]

theorem find?_of_mem (distinct : entries.names.Nodup) (among : (label, node) ∈ entries) :
    entries.find? label.name = some node := by
  induction entries with
  | nil => cases among
  | cons entry rest ih =>
    obtain ⟨new, later⟩ := List.nodup_cons.mp distinct
    rcases List.mem_cons.mp among with rfl | further
    next => simp [find?]
    next =>
      have apart : entry.1.name ≠ label.name := by
        intro same
        exact new (List.mem_map.mpr ⟨_, further, same.symm⟩)
      simpa [find?, apart] using ih later further

theorem mem_of_find? (found : entries.find? name = some node) :
    ∃ label, (label, node) ∈ entries ∧ label.name = name := by
  obtain ⟨⟨label, other⟩, first, same⟩ := Option.map_eq_some_iff.mp found
  cases same
  exact ⟨label, List.mem_of_find?_eq_some first, by simpa using List.find?_some first⟩

namespace Proper

theorem append (proper : entries.Proper) (new : label.name ∉ entries.names)
    (inRange : node.InRange) : (entries ++ [(label, node)]).Proper := by
  constructor
  case distinct =>
    rw [names, List.map_append, List.nodup_append]
    refine ⟨proper.distinct, by simp, ?_⟩
    rintro other among _ isNew rfl
    cases List.mem_singleton.mp isNew
    exact new among
  case inRange =>
    intro entry among
    rcases List.mem_append.mp among with old | isNew
    next => exact proper.inRange entry old
    next =>
      cases List.mem_singleton.mp isNew
      exact inRange

theorem replace (proper : entries.Proper) (name : String) (inRange : node.InRange) :
    (entries.replace name node).Proper := by
  constructor
  case distinct =>
    have same : (entries.replace name node).names = entries.names := by
      rw [names, Entries.replace, List.map_map]
      refine List.map_congr_left fun entry _ => ?_
      rw [Function.comp_apply]
      split <;> rfl
    exact same ▸ proper.distinct
  case inRange =>
    intro entry among
    obtain ⟨before, old, rfl⟩ := List.mem_map.mp among
    split
    next => exact inRange
    next => exact proper.inRange before old

theorem erase (proper : entries.Proper) (name : String) :
    (entries.erase name).Proper ∧ name ∉ (entries.erase name).names := by
  have names_eq : (entries.erase name).names = entries.names.filter (· != name) := by
    rw [names, Entries.erase, names, List.filter_map]
    rfl
  refine ⟨⟨?_, fun entry among => ?_⟩, by simp [names_eq]⟩
  next => exact names_eq ▸ proper.distinct.filter _
  next => exact proper.inRange entry (List.mem_filter.mp among).1

end Proper

def Keeps {α : Type} (change : Change α) : Prop :=
  ∀ {form entries result after}, change form entries = some (result, after) →
    entries.Proper → after.Proper

theorem within_cons_keeps {α : Type} (dotted : Bool) (change : Change α) (label : Label)
    (path : List Label) : Keeps (within dotted change (label :: path)) := by
  intro form entries result after changed proper
  unfold within at changed
  split at changed
  next none =>
    obtain ⟨⟨_, inner⟩, _, same⟩ := Option.bind_eq_some_iff.mp changed
    cases same
    exact proper.append (find?_eq_none_iff.mp none) (Node.table_inRange _ _)
  next => cases changed
  next form inner _ =>
    split at changed
    next => cases changed
    next =>
      obtain ⟨_, _, same⟩ := Option.bind_eq_some_iff.mp changed
      cases same
      exact proper.replace _ (Node.table_inRange _ _)
  next elements =>
    obtain ⟨_, _, same⟩ := Option.bind_eq_some_iff.mp changed
    cases same
    exact proper.replace _ (Node.tables_inRange _)
  next => cases changed

theorem within_keeps {α : Type} {dotted : Bool} {change : Change α} {path : List Label}
    (keeps : path = [] → Keeps change) : Keeps (within dotted change path) := by
  cases path with
  | nil => exact keeps rfl
  | cons label path => exact within_cons_keeps dotted change label path

theorem addKey_keeps (path : List Label) (key : Label) (inRange : node.InRange) :
    Keeps (addKey path key node) := by
  intro form entries result after changed proper
  unfold addKey at changed
  split at changed
  next => cases changed
  split at changed
  next => cases changed
  next new =>
    cases changed
    refine proper.append ?_ inRange
    rw [← find?_eq_none_iff]
    simpa using new

theorem takeImplied_eq_some {key : Label} {form : Form} {inner : Entries} (proper : entries.Proper)
    (taken : takeImplied key form entries = some (inner, after)) :
    after.Proper ∧ key.name ∉ after.names := by
  unfold takeImplied at taken
  split at taken
  next none =>
    cases taken
    exact ⟨proper, find?_eq_none_iff.mp none⟩
  next =>
    cases taken
    exact proper.erase key.name
  next => cases taken

theorem openElements_keeps (key : Label) : Keeps (openElements key) := by
  intro form entries result after opened proper
  unfold openElements at opened
  split at opened
  next none =>
    cases opened
    exact proper.append (find?_eq_none_iff.mp none) (Node.tables_inRange _)
  next =>
    cases opened
    exact proper
  next => cases opened

theorem pushElement_keeps (key : Label) (inner : Entries) : Keeps (pushElement key inner) := by
  intro form entries result after pushed proper
  unfold pushElement at pushed
  split at pushed
  next =>
    cases pushed
    exact proper.replace _ (Node.tables_inRange _)
  next => cases pushed

end Entries

namespace Builder

variable {builder after : Builder}

/-- The table that is being read has its name still free where it will go. -/
structure Tidy (builder : Builder) : Prop where
  complete : builder.complete.Proper
  current : builder.target = .root → builder.current.Proper
  vacant : ∀ key, builder.target = .table [] key → key.name ∉ builder.complete.names

theorem start_tidy : start.Tidy :=
  ⟨Entries.empty_proper, fun _ => Entries.empty_proper, nofun⟩

namespace Tidy

theorem close (tidy : builder.Tidy) {entries : Entries} (closed : builder.close = some entries) :
    entries.Proper := by
  unfold Builder.close at closed
  split at closed
  next root =>
    cases closed
    exact tidy.current root
  next parent key target =>
    obtain ⟨⟨_, _⟩, changed, rfl⟩ := Option.map_eq_some_iff.mp closed
    cases parent with
    | nil =>
      cases changed
      exact tidy.complete.append (tidy.vacant key target) (Node.table_inRange _ _)
    | cons label parent => exact Entries.within_keeps nofun changed tidy.complete
  next parent key target =>
    obtain ⟨⟨_, _⟩, changed, rfl⟩ := Option.map_eq_some_iff.mp closed
    exact Entries.within_keeps (fun _ => Entries.pushElement_keeps key _) changed tidy.complete

theorem add (tidy : builder.Tidy) {path : List Label} {key : Label} {node : Node}
    (inRange : node.InRange) (added : builder.add path key node = some after) : after.Tidy := by
  obtain ⟨current, inserted, rfl⟩ := Option.map_eq_some_iff.mp added
  obtain ⟨⟨_, _⟩, changed, rfl⟩ := Option.map_eq_some_iff.mp inserted
  have keeps := Entries.within_keeps (fun _ => Entries.addKey_keeps path key inRange) changed
  exact ⟨tidy.complete, fun root => keeps (tidy.current root), tidy.vacant⟩

theorem openTable (tidy : builder.Tidy) {parent : List Label} {key : Label}
    (opened : builder.openTable parent key = some after) : after.Tidy := by
  obtain ⟨entries, closed, opened⟩ := Option.bind_eq_some_iff.mp opened
  obtain ⟨⟨inner, complete⟩, taken, same⟩ := Option.bind_eq_some_iff.mp opened
  cases same
  have proper := tidy.close closed
  constructor
  case complete =>
    refine Entries.within_keeps (fun _ => ?_) taken proper
    exact fun taken proper => (Entries.takeImplied_eq_some proper taken).1
  case current => exact nofun
  case vacant =>
    rintro _ ⟨⟩
    exact (Entries.takeImplied_eq_some proper taken).2

theorem openElement (tidy : builder.Tidy) {parent : List Label} {key : Label}
    (opened : builder.openElement parent key = some after) : after.Tidy := by
  obtain ⟨entries, closed, opened⟩ := Option.bind_eq_some_iff.mp opened
  obtain ⟨⟨_, complete⟩, changed, same⟩ := Option.bind_eq_some_iff.mp opened
  cases same
  refine ⟨?_, nofun, nofun⟩
  exact Entries.within_keeps (fun _ => Entries.openElements_keeps key) changed (tidy.close closed)

end Tidy

end Builder

theorem bind_eq_ok {ε α β : Type} {first : Except ε α} {next : α → Except ε β} {result : β}
    (read : first >>= next = .ok result) : ∃ middle, first = .ok middle ∧ next middle = .ok result := by
  cases first with
  | error stop => cases read
  | ok middle => exact ⟨middle, rfl, read⟩

theorem agreed_eq_ok {α : Type} {place : Input} {change : Option α} {result : α}
    (agreement : agreed place change = .ok result) : change = some result := by
  cases change with
  | none => cases agreement
  | some found =>
    cases agreement
    rfl

theorem map_eq_ok {ε α β : Type} {change : α → β} {reading : Except ε α} {result : β}
    (read : reading.map change = .ok result) : ∃ found, reading = .ok found ∧ change found = result := by
  cases reading with
  | error stop => cases read
  | ok found => exact ⟨found, rfl, Except.ok.inj read⟩

theorem must_eq_ok {α : Type} {reading : Except Stop α} {found : α} (read : must reading = .ok found) :
    reading = .ok found := by
  cases reading with
  | error stop => cases read
  | ok result => exact read

theorem orTry_eq_ok {α : Type} {first second : Except Stop α} {found : α}
    (read : orTry first second = .ok found) : first = .ok found ∨ second = .ok found := by
  unfold orTry at read
  split at read
  next => exact .inl read
  split at read
  next => cases read
  next => exact .inr read

variable {builder after : Builder} {input rest start : Input} {value : Int} {node : Node}

theorem readDecimal_inRange {negative : Bool}
    (read : readDecimal start negative input = .ok (.integer value, rest)) :
    lowestInteger ≤ value ∧ value ≤ highestInteger := by
  obtain ⟨⟨whole, left⟩, _, read⟩ := bind_eq_ok read
  simp only at read
  split at read
  next =>
    obtain ⟨⟨fraction, _⟩, _, read⟩ := bind_eq_ok read
    obtain ⟨⟨power, _⟩, _, read⟩ := bind_eq_ok read
    simp only at read
    split at read <;> cases read
  next =>
    generalize (if negative then _ else _ : Int) = found at read
    split at read
    next bounds =>
      cases read
      exact bounds
    next => cases read

theorem readInBase_inRange {base : Nat}
    (read : readInBase base start input = .ok (.integer value, rest)) :
    lowestInteger ≤ value ∧ value ≤ highestInteger := by
  obtain ⟨⟨digits, left⟩, _, read⟩ := bind_eq_ok read
  simp only at read
  split at read
  next below =>
    cases read
    exact ⟨Int.le_trans (by decide) (Int.natCast_nonneg _), below⟩
  next => cases read

theorem readNumber_inRange (read : readNumber input = .ok (.integer value, rest)) :
    lowestInteger ≤ value ∧ value ≤ highestInteger := by
  unfold readNumber at read
  split at read
  case h_1 | h_2 | h_3 => exact readInBase_inRange read
  next =>
    simp only at read
    split at read
    next => cases read
    next => exact readDecimal_inRange read

theorem readLeaf_inRange (read : readLeaf input = .ok (node, rest)) : node.InRange := by
  rintro value rfl
  unfold readLeaf at read
  split at read
  case h_1 | h_2 | h_3 | h_4 =>
    obtain ⟨_, _, same⟩ := map_eq_ok read
    cases same
  next =>
    rcases orTry_eq_ok read with moment | number
    next =>
      obtain ⟨_, _, same⟩ := map_eq_ok moment
      cases same
    next =>
      obtain ⟨⟨number, _⟩, read, same⟩ := map_eq_ok number
      cases number with
      | float => cases same
      | integer =>
        cases same
        exact readNumber_inRange read

theorem readValue_inRange {depth : Nat} (read : readValue depth input = .ok (node, rest)) :
    node.InRange := by
  cases depth with
  | zero =>
    unfold readValue at read
    split at read
    case h_1 | h_2 => cases read
    next => exact readLeaf_inRange read
  | succ depth =>
    unfold readValue at read
    split at read
    case h_1 | h_2 =>
      obtain ⟨_, _, same⟩ := map_eq_ok read
      cases same
      exact nofun
    next => exact readLeaf_inRange read

theorem readPair_inRange {depth : Nat} {pair : Pair}
    (read : readPair (readValue depth) input = .ok (pair, rest)) : pair.node.InRange := by
  obtain ⟨⟨⟨path, key⟩, _⟩, _, read⟩ := bind_eq_ok read
  obtain ⟨_, _, read⟩ := bind_eq_ok (must_eq_ok read)
  obtain ⟨⟨node, _⟩, value, same⟩ := bind_eq_ok read
  cases same
  exact readValue_inRange value

theorem readHeader_tidy {opening closing : List Char} {enter : List Label → Label → Option Builder}
    (keeps : ∀ {path key builder}, enter path key = some builder → builder.Tidy)
    (read : readHeader opening closing input enter = .ok (after, rest)) : after.Tidy := by
  obtain ⟨_, _, read⟩ := bind_eq_ok read
  obtain ⟨⟨⟨path, key⟩, _⟩, _, read⟩ := bind_eq_ok read
  obtain ⟨_, _, read⟩ := bind_eq_ok read
  obtain ⟨_, _, read⟩ := bind_eq_ok read
  obtain ⟨_, entered, same⟩ := bind_eq_ok read
  cases same
  exact keeps (agreed_eq_ok entered)

theorem readAssignment_tidy (tidy : builder.Tidy)
    (read : readAssignment builder input = .ok (after, rest)) : after.Tidy := by
  obtain ⟨⟨pair, _⟩, assigned, read⟩ := bind_eq_ok read
  obtain ⟨_, _, read⟩ := bind_eq_ok read
  obtain ⟨_, added, same⟩ := bind_eq_ok read
  cases same
  exact tidy.add (readPair_inRange assigned) (agreed_eq_ok added)

theorem readLine_tidy (tidy : builder.Tidy) (read : readLine builder input = .ok (after, rest)) :
    after.Tidy := by
  unfold readLine at read
  split at read
  next => exact readHeader_tidy tidy.openElement read
  next => exact readHeader_tidy tidy.openTable read
  next => cases read
  next =>
    split at read
    next =>
      obtain ⟨_, _, same⟩ := map_eq_ok read
      cases same
      exact tidy
    next => exact readAssignment_tidy tidy read
  next =>
    cases read
    exact tidy

theorem readLines_tidy {lines : Nat} (tidy : builder.Tidy)
    (read : readLines lines builder input = .ok after) : after.Tidy := by
  induction lines generalizing builder input with
  | zero => cases read
  | succ lines ih =>
    unfold readLines at read
    split at read
    next =>
      cases read
      exact tidy
    next =>
      obtain ⟨⟨next, rest⟩, first, read⟩ := bind_eq_ok read
      exact ih (readLine_tidy tidy first) read

theorem read_proper {text : String} {entries : Entries} (done : read text = .ok entries) :
    entries.Proper := by
  obtain ⟨builder, lines, closed⟩ := bind_eq_ok done
  exact (readLines_tidy Builder.start_tidy lines).close (agreed_eq_ok closed)

end Conduit.Toml
