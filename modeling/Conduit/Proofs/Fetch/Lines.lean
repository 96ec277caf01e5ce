import Conduit.Fetch.Request
import Conduit.Proofs.Text.Pieces
set_option autoImplicit false

namespace Conduit.Fetch

open Text (Mark)

def lineBreak : Mark Char := ⟨'\r', '\n', by decide⟩

def lineBreakBytes : Mark UInt8 := ⟨13, 10, by decide⟩

theorem lineBreakBytes_encodes : lineBreakBytes.Encodes lineBreak :=
  ⟨⟨by decide, rfl⟩, ⟨by decide, rfl⟩⟩

def lines (text : String) : List String := (lineBreak.pieces text.toList).map String.ofList

def breaks (text : String) : Nat := lineBreak.places text.toList

def OneLine (text : String) : Prop := ¬lineEnd.toList <:+: text.toList

theorem oneLine_iff {text : String} : OneLine text ↔ breaks text = 0 :=
  (lineBreak.places_eq_zero_iff).symm

theorem lines_append (front back : String) :
    lines (front ++ lineEnd ++ back) = lines front ++ lines back := by
  have marked : (front ++ lineEnd ++ back).toList =
      front.toList ++ lineBreak.first :: lineBreak.second :: back.toList := by
    rw [String.toList_append, String.toList_append, List.append_assoc]
    rfl
  rw [lines, marked, Mark.pieces_append_mark, List.map_append, lines, lines]

theorem lines_of_oneLine {text : String} (one : OneLine text) : lines text = [text] := by
  rw [lines, Mark.pieces_of_places_eq_zero _ (oneLine_iff.mp one), List.map_singleton, String.ofList_toList]

theorem length_lines (text : String) : (lines text).length = breaks text + 1 := by
  rw [lines, List.length_map, Mark.length_pieces, breaks]

theorem lines_ne_nil (text : String) : lines text ≠ [] := by
  rw [← List.length_pos_iff, length_lines]
  exact Nat.succ_pos _

theorem oneLine_of_mem_lines {text : String} : ∀ line ∈ lines text, OneLine line := by
  rw [lines, List.forall_mem_map]
  intro piece among
  rw [oneLine_iff, breaks, String.toList_ofList]
  exact lineBreak.places_of_mem_pieces _ piece among

theorem lines_inj {text other : String} : lines text = lines other ↔ text = other := by
  refine ⟨fun same => ?_, congrArg lines⟩
  have pieces := (List.map_injective_iff.mpr fun _ _ => String.ofList_injective) same
  rw [← String.toList_inj, ← lineBreak.intercalate_pieces text.toList, pieces, Mark.intercalate_pieces]

theorem pieces_toUTF8 (text : String) :
    lineBreakBytes.pieces text.toUTF8.toList = (lines text).map (·.toUTF8.toList) := by
  simp only [lines, List.map_map, Text.toUTF8_toList, lineBreakBytes_encodes.pieces_eq]
  simp only [Function.comp_def, String.toList_ofList]

theorem oneLine_iff_toUTF8 {text : String} :
    OneLine text ↔ ¬lineBreakBytes.symbols <:+: text.toUTF8.toList := by
  rw [oneLine_iff, ← Mark.places_eq_zero_iff, Text.toUTF8_toList, lineBreakBytes_encodes.places_eq, breaks]

theorem breaks_between {front middle back : String} (before : '\r' ∉ front.toList)
    (after : back.toList.head? ≠ some '\n') (none : breaks back = 0) :
    breaks (front ++ middle ++ back) = breaks middle := by
  unfold breaks at *
  rw [String.toList_append, String.toList_append, Mark.places_append_of_head? _ after,
    Mark.places_append_of_not_mem _ before, none, Nat.add_zero]

theorem breaks_asking (path : String) : breaks ("GET " ++ path ++ " HTTP/1.1") = breaks path :=
  breaks_between (by decide) (by decide) (by decide)

theorem breaks_naming (host : String) : breaks ("Host: " ++ host) = breaks host := by
  have plain := @breaks_between "Host: " host "" (by decide) (by decide) (by decide)
  rwa [String.append_empty] at plain

theorem requestText_eq (host path : String) :
    requestText host path =
      "GET " ++ path ++ " HTTP/1.1" ++ lineEnd ++ ("Host: " ++ host ++ lineEnd ++
        ("Connection: close" ++ lineEnd ++ ("" ++ lineEnd ++ ""))) := by
  simp [requestText, requestLines, String.join, String.append_assoc]

theorem lines_requestText (host path : String) :
    lines (requestText host path) =
      lines ("GET " ++ path ++ " HTTP/1.1") ++
        (lines ("Host: " ++ host) ++ ["Connection: close", "", ""]) := by
  have closing : lines "Connection: close" = ["Connection: close"] :=
    lines_of_oneLine (oneLine_iff.mpr (by decide))
  have empty : lines "" = [""] := rfl
  rw [requestText_eq, lines_append, lines_append, lines_append, lines_append, closing, empty]
  rfl

def intended (host path : String) : List String :=
  ["GET " ++ path ++ " HTTP/1.1", "Host: " ++ host, "Connection: close", "", ""]

theorem length_lines_requestText (host path : String) :
    (lines (requestText host path)).length = 5 + breaks host + breaks path := by
  rw [lines_requestText, List.length_append, List.length_append, length_lines, length_lines,
    breaks_asking, breaks_naming]
  simp only [List.length_cons, List.length_nil]
  omega

theorem lines_requestText_eq_iff {host path : String} :
    lines (requestText host path) = intended host path ↔ OneLine host ∧ OneLine path := by
  rw [oneLine_iff, oneLine_iff]
  constructor
  next =>
    intro same
    have length := length_lines_requestText host path
    have five : (intended host path).length = 5 := rfl
    rw [same] at length
    omega
  next =>
    rintro ⟨plain_host, plain_path⟩
    rw [lines_requestText, lines_of_oneLine, lines_of_oneLine]
    next => rfl
    next => rw [oneLine_iff, breaks_naming, plain_host]
    next => rw [oneLine_iff, breaks_asking, plain_path]

def between? (front back text : String) : Option String :=
  (text.toList.dropPrefix? front.toList).bind fun rest =>
    (rest.dropSuffix? back.toList).map String.ofList

theorem between?_eq_some_iff {front middle back text : String} :
    between? front back text = some middle ↔ text = front ++ middle ++ back := by
  simp only [between?, Option.bind_eq_some_iff, Option.map_eq_some_iff, List.dropPrefix?_eq_some_iff,
    List.dropSuffix?_eq_some_iff, beq_iff_eq]
  constructor
  next =>
    rintro ⟨rest, ⟨_, whole, rfl⟩, middle, ⟨_, rfl, rfl⟩, rfl⟩
    rw [← String.toList_inj, whole, String.toList_append, String.toList_append, String.toList_ofList,
      List.append_assoc]
  next =>
    rintro rfl
    refine ⟨middle.toList ++ back.toList, ⟨_, ?_, rfl⟩, middle.toList, ⟨_, rfl, rfl⟩, String.ofList_toList⟩
    rw [String.toList_append, String.toList_append, List.append_assoc]

def readLines? : List String → Option (String × String)
  | asking :: naming :: later =>
      if later = ["Connection: close", "", ""] then
        (between? "GET " " HTTP/1.1" asking).bind fun path =>
          (between? "Host: " "" naming).map fun host => (host, path)
      else none
  | _ => none

theorem readLines?_eq_some_iff {cut : List String} {host path : String} :
    readLines? cut = some (host, path) ↔ cut = intended host path := by
  unfold readLines? intended
  split
  next asking naming later =>
    split
    next same =>
      simp only [Option.bind_eq_some_iff, Option.map_eq_some_iff, between?_eq_some_iff, Prod.mk.injEq, same,
        List.cons.injEq, and_true, String.append_empty]
      constructor
      next =>
        rintro ⟨_, asked, _, named, rfl, rfl⟩
        exact ⟨asked, named⟩
      next => exact fun both => ⟨path, both.1, host, both.2, rfl, rfl⟩
    next other => simp [other]
  next none =>
    refine ⟨nofun, ?_⟩
    rintro rfl
    exact absurd rfl (none _ _ _)

def readRequest? (text : String) : Option (String × String) := readLines? (lines text)

theorem lines_eq_intended_iff {text host path : String} :
    lines text = intended host path ↔ text = requestText host path ∧ OneLine host ∧ OneLine path := by
  constructor
  next =>
    intro same
    -- The first two lines end nowhere inside, so their host and path do not either.
    have each : ∀ line ∈ lines text, OneLine line := oneLine_of_mem_lines
    rw [same, intended, List.forall_mem_cons, List.forall_mem_cons, oneLine_iff, oneLine_iff, breaks_asking,
      breaks_naming, ← oneLine_iff, ← oneLine_iff] at each
    have plain : OneLine host ∧ OneLine path := ⟨each.2.1, each.1⟩
    rw [← lines_requestText_eq_iff.mpr plain, lines_inj] at same
    exact ⟨same, plain⟩
  next =>
    rintro ⟨rfl, plain⟩
    exact lines_requestText_eq_iff.mpr plain

theorem readRequest?_eq_some_iff {text host path : String} :
    readRequest? text = some (host, path) ↔
      text = requestText host path ∧ OneLine host ∧ OneLine path := by
  rw [readRequest?, readLines?_eq_some_iff, lines_eq_intended_iff]

theorem requestText_ends (host path : String) :
    ∃ front, requestText host path = front ++ "\r\n\r\n" := by
  refine ⟨"GET " ++ path ++ " HTTP/1.1" ++ lineEnd ++ ("Host: " ++ host ++ lineEnd ++ "Connection: close"), ?_⟩
  have twice : "\r\n\r\n" = lineEnd ++ ("" ++ lineEnd ++ "") := rfl
  rw [requestText_eq, twice]
  simp only [String.append_assoc]

theorem lines_append_blank (front back : String) :
    lines (front ++ "\r\n\r\n" ++ back) = lines front ++ "" :: lines back := by
  have twice : "\r\n\r\n" = lineEnd ++ ("" ++ lineEnd) := rfl
  have empty : lines "" = [""] := rfl
  have whole : front ++ "\r\n\r\n" ++ back = front ++ lineEnd ++ ("" ++ lineEnd ++ back) := by
    rw [twice]
    simp only [String.append_assoc]
  rw [whole, lines_append, lines_append, empty, List.singleton_append]

theorem eq_of_append_blank {host path : String} {front back : List String} (before : front ≠ [])
    (behind : back ≠ []) (whole : front ++ "" :: back = intended host path) : back = [""] := by
  have naming : "Host: " ++ host ≠ "" := fun none => by simpa using congrArg String.toList none
  obtain ⟨last, more, rfl⟩ := List.exists_cons_of_ne_nil behind
  rcases front with _ | ⟨first, _ | ⟨second, _ | ⟨third, _ | ⟨fourth, later⟩⟩⟩⟩
  next => exact absurd rfl before
  next => exact absurd (List.cons.inj (List.cons.inj whole).2).1.symm naming
  next =>
    simp only [intended, List.cons_append, List.nil_append, List.cons.injEq] at whole
    exact absurd whole.2.2.1 (by decide)
  next => exact (List.cons.inj (List.cons.inj (List.cons.inj (List.cons.inj whole).2).2).2).2
  next =>
    have lengths := congrArg List.length whole
    simp only [intended, List.length_append, List.length_cons, List.length_nil] at lengths
    omega

theorem eq_empty_of_blank {host path front back : String} (plain : OneLine host ∧ OneLine path)
    (blank : requestText host path = front ++ "\r\n\r\n" ++ back) : back = "" := by
  have cut := lines_requestText_eq_iff.mpr plain
  rw [blank, lines_append_blank] at cut
  exact lines_inj.mp (eq_of_append_blank (lines_ne_nil front) (lines_ne_nil back) cut)

theorem requestText_inj {host path host' path' : String} (plain : OneLine host ∧ OneLine path)
    (same : requestText host' path' = requestText host path) : host' = host ∧ path' = path := by
  -- As many lines, so the other two bring no line end along either.
  have count := length_lines_requestText host' path'
  rw [same, length_lines_requestText, oneLine_iff.mp plain.1, oneLine_iff.mp plain.2] at count
  have other : OneLine host' ∧ OneLine path' := by
    rw [oneLine_iff, oneLine_iff]
    omega
  have read := readRequest?_eq_some_iff.mpr ⟨same.symm, other⟩
  rw [readRequest?_eq_some_iff.mpr ⟨rfl, plain⟩] at read
  cases read
  exact ⟨rfl, rfl⟩

/-- What the text of a request and the bytes of it tell. -/
structure Unmistakable (host path : String) : Prop where
  lines_iff : lines (requestText host path) = intended host path ↔ OneLine host ∧ OneLine path
  count : (lines (requestText host path)).length = 5 + breaks host + breaks path
  ends : ∃ front, requestText host path = front ++ "\r\n\r\n"
  ends_once : OneLine host → OneLine path → ∀ front back,
    requestText host path = front ++ "\r\n\r\n" ++ back → back = ""
  reread_iff : readRequest? (requestText host path) = some (host, path) ↔ OneLine host ∧ OneLine path
  unique : OneLine host → OneLine path → ∀ host' path',
    requestText host' path' = requestText host path → host' = host ∧ path' = path
  plain_iff : (OneLine host ↔ ¬[13, 10] <:+: host.toUTF8.toList) ∧
    (OneLine path ↔ ¬[13, 10] <:+: path.toUTF8.toList)
  wire : lineBreakBytes.pieces (requestText host path).toUTF8.toList =
    (lines (requestText host path)).map (·.toUTF8.toList)

theorem request_unmistakable (host path : String) : Unmistakable host path := by
  constructor
  case lines_iff => exact lines_requestText_eq_iff
  case count => exact length_lines_requestText host path
  case ends => exact requestText_ends host path
  case ends_once => exact fun one one' front back => eq_empty_of_blank ⟨one, one'⟩
  case reread_iff => rw [readRequest?_eq_some_iff, and_iff_right rfl]
  case unique => exact fun one one' host' path' => requestText_inj ⟨one, one'⟩
  case plain_iff => exact ⟨oneLine_iff_toUTF8, oneLine_iff_toUTF8⟩
  case wire => exact pieces_toUTF8 _

-- Half line ends beside whole ones, and a path that looks like the end of its line; then a host that adds a line.
theorem request_loose_ends :
    OneLine "\nb\r" ∧ OneLine "\r HTTP/1.1\r" ∧
    lines (requestText "\nb\r" "\r HTTP/1.1\r") =
      ["GET \r HTTP/1.1\r HTTP/1.1", "Host: \nb\r", "Connection: close", "", ""] ∧
    readRequest? (requestText "\nb\r" "\r HTTP/1.1\r") = some ("\nb\r", "\r HTTP/1.1\r") ∧
    (lines (requestText "b\r\nCookie: c" "/")).length = 6 := by
  have host : OneLine "\nb\r" := oneLine_iff.mpr (by decide)
  have path : OneLine "\r HTTP/1.1\r" := oneLine_iff.mpr (by decide)
  have loose := request_unmistakable "\nb\r" "\r HTTP/1.1\r"
  have added := (request_unmistakable "b\r\nCookie: c" "/").count
  exact ⟨host, path, loose.lines_iff.mpr ⟨host, path⟩, loose.reread_iff.mpr ⟨host, path⟩, added⟩

end Conduit.Fetch
