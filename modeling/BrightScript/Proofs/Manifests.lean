import Mathlib.Data.List.Basic
import BrightScript.Manifest
import BrightScript.Proofs.Contents
import BrightScript.Proofs.Trimming
set_option autoImplicit false

namespace BrightScript

namespace Entries

variable {α : Type}

theorem member_of_find {key : String} {value : α} {entries : List (String × α)}
    (found : find? key entries = some value) : (key, value) ∈ entries := by
  induction entries with
  | nil => cases found
  | cons head rest ih =>
    obtain ⟨k, v⟩ := head
    by_cases same : key = k
    · subst same
      cases (if_pos rfl).symm.trans found
      exact List.mem_cons_self
    · rw [find?, if_neg same] at found
      exact List.mem_cons_of_mem _ (ih found)

end Entries

namespace Table

variable {α : Type}

theorem member_iff (t : Table α) (pair : String × α) :
    pair ∈ t.entries ↔ fold pair.1 = pair.1 ∧ t.get? pair.1 = some pair.2 := by
  constructor
  · intro member
    have folded := t.folded pair member
    refine ⟨folded, ?_⟩
    rw [get?, folded]
    exact Entries.find_member t.ordered member
  · rintro ⟨folded, found⟩
    rw [get?, folded] at found
    exact Entries.member_of_find found

theorem get_insert_all_other (t : Table α) {pairs : List (String × α)} {name : String}
    (other : ∀ pair ∈ pairs, fold name ≠ fold pair.1) :
    (t.insertAll pairs).get? name = t.get? name := by
  induction pairs generalizing t with
  | nil => rfl
  | cons first rest ih =>
    have later := ih (t.insert first.1 first.2) fun pair member =>
      other pair (List.mem_cons_of_mem _ member)
    rw [get_insert, if_neg (other first List.mem_cons_self)] at later
    exact later

theorem get_insert_all (t : Table α) {pairs : List (String × α)}
    (distinct : (pairs.map fun pair => fold pair.1).Nodup) {pair : String × α}
    (member : pair ∈ pairs) {name : String} (same : fold name = fold pair.1) :
    (t.insertAll pairs).get? name = some pair.2 := by
  induction pairs generalizing t with
  | nil => cases member
  | cons first rest ih =>
    rw [List.map_cons, List.nodup_cons] at distinct
    rcases List.mem_cons.1 member with rfl | later
    · have other : ∀ next ∈ rest, fold name ≠ fold next.1 := by
        intro next among again
        apply distinct.1
        rw [← same, again]
        exact List.mem_map_of_mem among
      have kept := (t.insert pair.1 pair.2).get_insert_all_other other
      rw [get_insert, if_pos same] at kept
      exact kept
    · exact ih (t.insert first.1 first.2) distinct.2 later

theorem of_list_entries {pairs : List (String × α)} (folded : ∀ pair ∈ pairs, fold pair.1 = pair.1)
    (distinct : (pairs.map Prod.fst).Nodup) (pair : String × α) :
    pair ∈ (empty.insertAll pairs).entries ↔ pair ∈ pairs := by
  have names : (pairs.map fun pair => fold pair.1) = pairs.map Prod.fst :=
    List.map_congr_left folded
  rw [member_iff]
  constructor
  · rintro ⟨own, found⟩
    by_cases held : ∃ other ∈ pairs, other.1 = pair.1
    · obtain ⟨other, member, same⟩ := held
      rw [get_insert_all _ (names ▸ distinct) member (by rw [same])] at found
      exact Prod.ext same (Option.some.inj found) ▸ member
    · rw [get_insert_all_other _ fun other member same => held ⟨other, member, ?_⟩] at found
      · cases found
      · rw [← folded other member, ← same, own]
  · intro member
    exact ⟨folded pair member, get_insert_all _ (names ▸ distinct) member rfl⟩

end Table

namespace Manifest

structure Malformed (line : List Char) : Prop where
  something : trimChars line ≠ []
  plain : (trimChars line).head? ≠ some '#'
  unequal : '=' ∉ trimChars line

section Lines

variable {line : List Char}

theorem read_malformed : Line.read line = .malformed ↔ Malformed line := by
  unfold Line.read
  split
  · rename_i none
    exact iff_of_false nofun fun malformed => malformed.something none
  · rename_i remark comment
    refine iff_of_false nofun fun malformed => malformed.plain ?_
    rw [comment]
    rfl
  · rename_i something plain
    split
    · rename_i key value split
      refine iff_of_false nofun fun malformed => ?_
      rw [split_first_none.2 malformed.unequal] at split
      cases split
    · rename_i unequal
      refine iff_of_true rfl ⟨something, fun first => ?_, split_first_none.1 unequal⟩
      obtain ⟨remark, comment⟩ := List.head?_eq_some_iff.1 first
      exact plain remark comment

theorem read_pair {front : List Char} (unequal : '=' ∉ front)
    (plain : (trimStartChars front).head? ≠ some '#') (behind : List Char) :
    Line.read (front ++ '=' :: behind) =
      .pair (String.ofList (trimChars front)) (String.ofList (trimChars behind)) := by
  have trimmed : trimChars (front ++ '=' :: behind) = trimStartChars front ++ '=' ::
      trimEndChars behind :=
    trim_around (by decide) front behind
  have absent : '=' ∉ trimStartChars front := by
    obtain ⟨blanks, -, whole⟩ := trim_start_taken front
    rw [← whole] at unequal
    exact fun member => unequal (List.mem_append_right _ member)
  unfold Line.read
  rw [trimmed]
  split
  · rename_i none
    simp at none
  · rename_i remark comment
    cases first : trimStartChars front with
    | nil => simp [first] at comment
    | cons c rest =>
      rw [first] at comment plain
      cases comment
      exact absurd rfl plain
  · rw [split_first_append absent]
    dsimp only
    rw [trim_trim_start, trim_trim_end]

theorem read_of_trimmed {other : List Char} (same : trimChars line = trimChars other) :
    Line.read line = Line.read other := by
  unfold Line.read
  rw [same]

theorem malformed_of_trimmed {other : List Char} (same : trimChars line = trimChars other)
    (malformed : Malformed line) : Malformed other :=
  read_malformed.1 ((read_of_trimmed same).symm.trans (read_malformed.2 malformed))

theorem trim_drop_return (line : List Char) : trimChars (dropReturn line) = trimChars line := by
  unfold dropReturn
  by_cases ends : line.getLast? = some '\r'
  · rw [if_pos ends]
    obtain ⟨front, rfl⟩ := List.getLast?_eq_some_iff.1 ends
    rw [List.dropLast_concat]
    exact (trim_after (List.forall_mem_singleton.2 (by decide)) front).symm
  · rw [if_neg ends]

end Lines

section Parsing

def Line.pair? : Line → Option (String × String)
  | .pair key value => some (key, value)
  | _ => none

def pairs (lines : List (List Char)) : List (String × String) :=
  lines.filterMap fun line => (Line.read line).pair?

theorem add_lines_fine {lines : List (List Char)} (fine : ∀ line ∈ lines, ¬ Malformed line)
    (m : Manifest) (number : Nat) :
    addLines m number lines = .ok (m.insertAll (pairs lines)) := by
  induction lines generalizing m number with
  | nil => rfl
  | cons line rest ih =>
    have later := fun m => ih (fun other member => fine other (List.mem_cons_of_mem _ member)) m
        (number + 1)
    cases read : Line.read line with
    | nothing => simp [addLines, pairs, read, Line.pair?, later]
    | pair key value => simp [addLines, pairs, read, Line.pair?, later, Table.insertAll]
    | malformed => exact absurd (read_malformed.1 read) (fine line List.mem_cons_self)

theorem add_lines_stops {before : List (List Char)} (fine : ∀ line ∈ before, ¬ Malformed line)
    {line : List Char} (malformed : Malformed line) (after : List (List Char)) (m : Manifest)
    (number : Nat) : addLines m number (before ++ line :: after) =
      .error (.malformedLine (number + before.length) (String.ofList line)) := by
  induction before generalizing m number with
  | nil => simp [addLines, read_malformed.2 malformed]
  | cons first rest ih =>
    have later := fun m => ih (fun other member => fine other (List.mem_cons_of_mem _ member)) m
        (number + 1)
    have count : number + 1 + rest.length = number + (first :: rest).length := by
      rw [List.length_cons]
      omega
    rw [count] at later
    cases read : Line.read first with
    | nothing => simp [addLines, read, later]
    | pair key value => simp [addLines, read, later]
    | malformed => exact absurd (read_malformed.1 read) (fine first List.mem_cons_self)

theorem first_malformed (lines : List (List Char)) :
    (∀ line ∈ lines, ¬ Malformed line) ∨ ∃ before line after, lines = before ++ line :: after ∧
      (∀ other ∈ before, ¬ Malformed other) ∧ Malformed line := by
  induction lines with
  | nil => exact .inl nofun
  | cons line rest ih =>
    by_cases malformed : Malformed line
    · exact .inr ⟨[], line, rest, rfl, nofun, malformed⟩
    · rcases ih with fine | ⟨before, other, after, rfl, fine, stops⟩
      · exact .inl fun other member =>
          (List.mem_cons.1 member).elim (fun same => same ▸ malformed) (fine other)
      · refine .inr ⟨line :: before, other, after, rfl, fun earlier member => ?_, stops⟩
        exact (List.mem_cons.1 member).elim (fun same => same ▸ malformed) (fine earlier)

theorem parse_fine {text : String} (fine : ∀ line ∈ lines text.toList, ¬ Malformed line) :
    Manifest.parse text = .ok (Table.empty.insertAll (pairs (lines text.toList))) :=
  add_lines_fine fine .empty 1

theorem parse_error_iff (text : String) (fault : ManifestFault) :
    Manifest.parse text = .error fault ↔
      ∃ before line after, lines text.toList = before ++ line :: after ∧
      (∀ other ∈ before, ¬ Malformed other) ∧ Malformed line ∧
      fault = .malformedLine (before.length + 1) (String.ofList line) := by
  constructor
  · intro refused
    rcases first_malformed (lines text.toList) with fine | ⟨before, line, after, split,
      fine, malformed⟩
    · rw [parse_fine fine] at refused
      cases refused
    · have stops := add_lines_stops fine malformed after .empty 1
      rw [← split, Nat.add_comm] at stops
      exact ⟨before, line, after, split, fine, malformed,
        Except.error.inj (refused.symm.trans stops)⟩
  · rintro ⟨before, line, after, split, fine, malformed, rfl⟩
    have stops := add_lines_stops fine malformed after .empty 1
    rwa [← split, Nat.add_comm] at stops

theorem lines_cases (text : List Char) :
    ∃ complete last, text.splitOn '\n' = complete ++ [last] ∧
      lines text = complete.map dropReturn ++ if last.isEmpty then [] else [last] := by
  rcases List.eq_nil_or_concat (text.splitOn '\n') with none | ⟨complete, last, split⟩
  · exact absurd none (List.splitOn_ne_nil _ _)
  · rw [List.concat_eq_append] at split
    refine ⟨complete, last, split, ?_⟩
    unfold lines
    rw [split_all_eq, split, List.reverse_concat]
    dsimp only
    rw [List.reverse_reverse]

theorem pairs_lines (text : List Char) : pairs (lines text) = pairs (text.splitOn '\n') := by
  obtain ⟨complete, last, split, rows⟩ := lines_cases text
  have returns : pairs (complete.map dropReturn) = pairs complete := by
    unfold pairs
    rw [List.filterMap_map]
    exact List.filterMap_congr fun line _ =>
      congrArg Line.pair? (read_of_trimmed (trim_drop_return line))
  have ends : pairs (if last.isEmpty then [] else [last]) = pairs [last] := by
    cases last with
    | nil => rfl
    | cons c rest => rfl
  unfold pairs at returns ends ⊢
  rw [rows, split, List.filterMap_append, List.filterMap_append, returns, ends]

theorem fine_lines {text : List Char} (fine : ∀ line ∈ text.splitOn '\n', ¬ Malformed line) :
    ∀ line ∈ lines text, ¬ Malformed line := by
  obtain ⟨complete, last, split, rows⟩ := lines_cases text
  rw [split] at fine
  rw [rows]
  intro line member malformed
  rcases List.mem_append.1 member with returned | final
  · obtain ⟨whole, among, rfl⟩ := List.mem_map.1 returned
    exact fine whole (List.mem_append_left _ among)
      (malformed_of_trimmed (trim_drop_return whole) malformed)
  · cases last with
    | nil => cases final
    | cons c rest => exact fine line (List.mem_append_right _ final) malformed

end Parsing

section Rendering

structure Padding where
  chars : List Char
  blank : ∀ c ∈ chars, isBlank c = true
  line : '\n' ∉ chars

structure Entry where
  key : String
  value : String
  keyTrimmed : trim key = key
  keyFolded : fold key = key
  keyPlain : '=' ∉ key.toList ∧ '\n' ∉ key.toList ∧ key.toList.head? ≠ some '#'
  valueTrimmed : trim value = value
  valueLine : '\n' ∉ value.toList

-- A line of a manifest. An entry is padded around its key and around its value.
inductive Row where
  | blank (padding : Padding)
  | comment (padding : Padding) (remark : List Char) (line : '\n' ∉ remark)
  | entry (entry : Entry) (before behind ahead after : Padding)

namespace Row

def text : Row → List Char
  | blank padding => padding.chars
  | comment padding remark _ => padding.chars ++ '#' :: remark
  | entry e before behind ahead after =>
    before.chars ++ e.key.toList ++ behind.chars ++ '=' ::
      (ahead.chars ++ e.value.toList ++ after.chars)

def entry? : Row → Option Entry
  | entry e _ _ _ _ => some e
  | _ => none

end Row

def entries (rows : List Row) : List Entry :=
  rows.filterMap Row.entry?

def rendered (rows : List Row) : String :=
  String.ofList (['\n'].intercalate (rows.map Row.text))

theorem trimmed_chars {text : String} (trimmed : trim text = text) :
    trimChars text.toList = text.toList := by
  have chars := congrArg String.toList trimmed
  rwa [trim, String.toList_ofList] at chars

theorem row_line (row : Row) : '\n' ∉ row.text := by
  cases row with
  | blank padding => exact padding.line
  | comment padding remark line => simp [Row.text, padding.line, line]
  | entry e before behind ahead after =>
    simp [Row.text, before.line, behind.line, ahead.line, after.line, e.keyPlain.2.1, e.valueLine]

theorem read_entry (e : Entry) (before behind ahead after : Padding) :
    Line.read (Row.entry e before behind ahead after).text = .pair e.key e.value := by
  have padded := trimmed_chars e.keyTrimmed
  have unequal : '=' ∉ before.chars ++ e.key.toList ++ behind.chars := by
    intro member
    rcases List.mem_append.1 member with front | blank
    · rcases List.mem_append.1 front with blank | key
      · cases before.blank '=' blank
      · exact e.keyPlain.1 key
    · cases behind.blank '=' blank
  have plain : (trimStartChars (before.chars ++ e.key.toList ++ behind.chars)).head? ≠
      some '#' := by
    rw [List.append_assoc, trim_start_blank before.blank]
    cases key : e.key.toList with
    | nil =>
      rw [List.nil_append, trim_start_all behind.blank]
      exact nofun
    | cons c rest =>
      rw [key] at padded
      have shown := first_shown padded rfl
      have first := e.keyPlain.2.2
      rw [List.cons_append, trim_start_shown shown]
      rwa [key] at first
  have read := read_pair unequal plain (ahead.chars ++ e.value.toList ++ after.chars)
  rw [trim_blanks before.blank behind.blank, trim_blanks ahead.blank after.blank, padded,
    trimmed_chars e.valueTrimmed, String.ofList_toList, String.ofList_toList] at read
  exact read

theorem read_row (row : Row) :
    Line.read row.text = (row.entry?.elim .nothing fun e => .pair e.key e.value) := by
  cases row with
  | blank padding =>
    unfold Line.read
    rw [Row.text, trim_all padding.blank]
    rfl
  | comment padding remark line =>
    unfold Line.read
    rw [Row.text, trim_around (by decide), trim_start_all padding.blank]
    rfl
  | entry e before behind ahead after => exact read_entry e before behind ahead after

theorem row_fine (row : Row) : ¬ Malformed row.text := by
  intro malformed
  have read := (read_row row).symm.trans (read_malformed.2 malformed)
  cases entry : row.entry? <;> simp [entry] at read

theorem rendered_split {rows : List Row} (some : rows ≠ []) :
    (rendered rows).toList.splitOn '\n' = rows.map Row.text := by
  rw [rendered, String.toList_ofList]
  refine List.splitOn_intercalate '\n' (fun line member => ?_) (by simpa using some)
  obtain ⟨row, -, rfl⟩ := List.mem_map.1 member
  exact row_line row

theorem rendered_fine (rows : List Row) :
    ∀ line ∈ lines (rendered rows).toList, ¬ Malformed line := by
  by_cases none : rows = []
  · subst none
    exact nofun
  · apply fine_lines
    rw [rendered_split none]
    intro line member
    obtain ⟨row, -, rfl⟩ := List.mem_map.1 member
    exact row_fine row

theorem rendered_pairs (rows : List Row) :
    pairs (lines (rendered rows).toList) = (entries rows).map fun e => (e.key, e.value) := by
  by_cases none : rows = []
  · subst none
    rfl
  · rw [pairs_lines, rendered_split none, pairs, entries, List.filterMap_map, List.map_filterMap]
    refine List.filterMap_congr fun row _ => ?_
    rw [Function.comp_apply, read_row]
    cases row.entry? <;> rfl

theorem rendered_read {rows : List Row} (distinct : ((entries rows).map Entry.key).Nodup) :
    ∃ m, Manifest.parse (rendered rows) = .ok m ∧
      (∀ e ∈ entries rows, ∀ name, fold name = e.key → m.get? name = some e.value) ∧
      ∀ name, (∀ e ∈ entries rows, fold name ≠ e.key) → m.get? name = none := by
  refine ⟨_, parse_fine (rendered_fine rows), ?_, ?_⟩
  · intro e member name same
    have keys : ((entries rows).map fun e => (e.key, e.value)).map (fun pair => fold pair.1) =
        (entries rows).map Entry.key := by
      rw [List.map_map]
      exact List.map_congr_left fun e _ => e.keyFolded
    rw [rendered_pairs]
    have held : (e.key, e.value) ∈ (entries rows).map fun e => (e.key, e.value) :=
      List.mem_map_of_mem member
    exact Table.get_insert_all _ (keys ▸ distinct) held (same.trans e.keyFolded.symm)
  · intro name other
    rw [rendered_pairs, Table.get_insert_all_other]
    · rfl
    · intro pair member
      obtain ⟨e, among, rfl⟩ := List.mem_map.1 member
      rw [e.keyFolded]
      exact other e among

end Rendering

section Constants

structure ConstName (name : String) : Prop where
  nonempty : name ≠ ""
  trimmed : trim name = name
  folded : fold name = name
  plain : '=' ∉ name.toList ∧ ';' ∉ name.toList ∧ '\n' ∉ name.toList

def truthText (truth : Bool) : List Char :=
  if truth then "true".toList else "false".toList

def constText (const : String × Bool) : List Char :=
  const.1.toList ++ '=' :: truthText const.2

def constsText (consts : List (String × Bool)) : List Char :=
  [';'].intercalate (consts.map constText)

structure Framed (text : List Char) : Prop where
  first : ∃ c ∈ text.head?, isBlank c = false
  last : ∃ c ∈ text.getLast?, isBlank c = false

theorem Framed.trimmed {text : List Char} (framed : Framed text) : trimChars text = text := by
  obtain ⟨c, first, shown⟩ := framed.first
  obtain ⟨d, last, visible⟩ := framed.last
  apply trim_shown
  · intro other same
    cases Option.some.inj (first.symm.trans same)
    exact shown
  · intro other same
    cases Option.some.inj (last.symm.trans same)
    exact visible

theorem Framed.around {front behind : List Char} (first : Framed front) (last : Framed behind)
    (between : List Char) : Framed (front ++ between ++ behind) := by
  obtain ⟨c, start, shown⟩ := first.first
  obtain ⟨d, ends, visible⟩ := last.last
  obtain ⟨rest, rfl⟩ := List.head?_eq_some_iff.1 start
  obtain ⟨before, rfl⟩ := List.getLast?_eq_some_iff.1 ends
  refine ⟨⟨c, rfl, shown⟩,
    ⟨d, List.getLast?_eq_some_iff.2 ⟨c :: rest ++ between ++ before, ?_⟩, visible⟩⟩
  rw [List.append_assoc _ before]

variable {const : String × Bool} {consts : List (String × Bool)}

theorem const_framed (named : ConstName const.1) : Framed (constText const) := by
  have some : const.1.toList ≠ [] := fun none => named.nonempty (String.toList_eq_nil_iff.1 none)
  obtain ⟨c, rest, name⟩ := List.exists_cons_of_ne_nil some
  have shown := first_shown (trimmed_chars named.trimmed) (congrArg List.head? name)
  refine ⟨⟨c, by simp [constText, name], shown⟩, ⟨'e', ?_, by decide⟩⟩
  cases truth : const.2 <;> simp [constText, truthText, truth]

theorem consts_text_cons (const next : String × Bool) (rest : List (String × Bool)) :
    constsText (const :: next :: rest) = constText const ++ [';'] ++ constsText (next :: rest) := by
  unfold constsText
  rw [List.map_cons, List.map_cons, List.intercalate_cons_cons, List.append_assoc]

theorem consts_framed (named : ∀ const ∈ consts, ConstName const.1) (some : consts ≠ []) :
    Framed (constsText consts) := by
  induction consts with
  | nil => exact absurd rfl some
  | cons const rest ih =>
    have first := const_framed (named const List.mem_cons_self)
    cases rest with
    | nil => simpa [constsText] using first
    | cons next rest =>
      have behind := ih (fun other member => named other (List.mem_cons_of_mem _ member))
          (List.cons_ne_nil _ _)
      rw [consts_text_cons]
      exact first.around behind [';']

theorem const_lacks (named : ConstName const.1) :
    ';' ∉ constText const ∧ '\n' ∉ constText const := by
  have truths : ∀ truth, ';' ∉ '=' :: truthText truth ∧ '\n' ∉ '=' :: truthText truth := by decide
  obtain ⟨-, apart, line⟩ := named.plain
  obtain ⟨single, unbroken⟩ := truths const.2
  exact ⟨fun member => (List.mem_append.1 member).elim apart single,
    fun member => (List.mem_append.1 member).elim line unbroken⟩

theorem parse_const_text (named : ConstName const.1) :
    parseConst (String.ofList (constText const)) = .ok const := by
  have some : const.1.toList ≠ [] := fun none => named.nonempty (String.toList_eq_nil_iff.1 none)
  obtain ⟨c, rest, name⟩ := List.exists_cons_of_ne_nil some
  have unequal := named.plain.1
  have truths : ∀ truth, readTruth? (trimChars (truthText truth)) = Option.some truth := by decide
  unfold parseConst
  rw [String.toList_ofList, constText, split_first_append unequal]
  dsimp only
  rw [trimmed_chars named.trimmed, truths, name]
  dsimp only
  rw [← name, String.ofList_toList, named.folded]

theorem add_constants_texts (named : ∀ const ∈ consts, ConstName const.1) (constants : Constants) :
    addConstants constants (consts.map fun const => String.ofList (constText const)) =
      .ok (constants.insertAll consts) := by
  induction consts generalizing constants with
  | nil => rfl
  | cons const rest ih =>
    have later := ih (fun other member => named other (List.mem_cons_of_mem _ member))
        (constants.insert const.1 const.2)
    simp only [List.map_cons, addConstants,
      parse_const_text (named const List.mem_cons_self), later]
    rfl

theorem const_entries_text (named : ∀ const ∈ consts, ConstName const.1) :
    constEntries (String.ofList (constsText consts)) = consts.map fun const =>
      String.ofList (constText const) := by
  by_cases none : consts = []
  · subst none
    rfl
  · have split : (constsText consts).splitOn ';' = consts.map constText := by
      refine List.splitOn_intercalate ';' (fun text member => ?_) (by simpa using none)
      obtain ⟨const, among, rfl⟩ := List.mem_map.1 member
      exact (const_lacks (named const among)).1
    have trimmed : (consts.map constText).map trimChars = consts.map constText := by
      rw [List.map_map]
      exact List.map_congr_left fun const member => (const_framed (named const member)).trimmed
    have kept : (consts.map constText).filter (fun text => !text.isEmpty) =
        consts.map constText := by
      refine List.filter_eq_self.2 fun text member => ?_
      obtain ⟨const, among, rfl⟩ := List.mem_map.1 member
      simp [constText]
    rw [constEntries, String.toList_ofList, split_all_eq, split, trimmed, kept, List.map_map]
    rfl

theorem consts_lack_line (named : ∀ const ∈ consts, ConstName const.1) :
    '\n' ∉ constsText consts := by
  induction consts with
  | nil => exact nofun
  | cons const rest ih =>
    have first := (const_lacks (named const List.mem_cons_self)).2
    have later := ih fun other member => named other (List.mem_cons_of_mem _ member)
    cases rest with
    | nil => simpa [constsText] using first
    | cons next rest =>
      rw [consts_text_cons]
      simp [first, later]

theorem consts_trimmed (named : ∀ const ∈ consts, ConstName const.1) :
    trimChars (constsText consts) = constsText consts := by
  by_cases none : consts = []
  · subst none
    rfl
  · exact (consts_framed named none).trimmed

def constsEntry (named : ∀ const ∈ consts, ConstName const.1) : Entry where
  key := "bs_const"
  value := String.ofList (constsText consts)
  keyTrimmed := by decide
  keyFolded := by decide
  keyPlain := by decide
  valueTrimmed := by rw [trim, String.toList_ofList, consts_trimmed named]
  valueLine := by
    rw [String.toList_ofList]
    exact consts_lack_line named

theorem constants_read (named : ∀ const ∈ consts, ConstName const.1)
    (distinct : (consts.map Prod.fst).Nodup) {m : Manifest}
    (held : m.get? "bs_const" = some (String.ofList (constsText consts))) :
    ∃ constants, m.constants = .ok constants ∧ ∀ const, const ∈ constants.entries ↔
      const ∈ consts := by
  refine ⟨Table.empty.insertAll consts, ?_,
    Table.of_list_entries (fun const member => (named const member).folded) distinct⟩
  unfold Manifest.constants
  rw [held]
  dsimp only
  rw [const_entries_text named, add_constants_texts named]

end Constants

/-- A manifest holds what its lines were rendered from: every value is found under every spelling of
its key, and nothing under other names. A text is refused exactly when one of its lines is
malformed, and the fault names the first such line. The constants of a manifest are those that its
entry for constants was rendered from. -/
theorem manifests_read_exactly :
    (∀ rows : List Row, ((entries rows).map Entry.key).Nodup →
      ∃ m, Manifest.parse (rendered rows) = .ok m ∧
        (∀ e ∈ entries rows, ∀ name, fold name = e.key → m.get? name = some e.value) ∧
        ∀ name, (∀ e ∈ entries rows, fold name ≠ e.key) → m.get? name = none) ∧
      (∀ text fault, Manifest.parse text = .error fault ↔
        ∃ before line after, lines text.toList = before ++ line :: after ∧
          (∀ other ∈ before, ¬ Malformed other) ∧ Malformed line ∧
          fault = .malformedLine (before.length + 1) (String.ofList line)) ∧
      ∀ (consts : List (String × Bool)) (named : ∀ const ∈ consts, ConstName const.1),
        (consts.map Prod.fst).Nodup → ∀ rows : List Row, ((entries rows).map Entry.key).Nodup →
          constsEntry named ∈ entries rows →
            ∃ m constants, Manifest.parse (rendered rows) = .ok m ∧ m.constants = .ok constants ∧
              ∀ const, const ∈ constants.entries ↔ const ∈ consts := by
  refine ⟨fun rows => rendered_read, parse_error_iff, fun consts named names rows keys member => ?_⟩
  obtain ⟨m, read, found, -⟩ := rendered_read keys
  have held : m.get? "bs_const" = some (String.ofList (constsText consts)) :=
    found _ member "bs_const" (constsEntry named).keyFolded
  obtain ⟨constants, kept, same⟩ := constants_read named names held
  exact ⟨m, constants, read, kept, same⟩

theorem padded_title_and_broken_line :
    (∃ m constants, Manifest.parse "# remark\n title\t= a=b \n\nbs_const=debug=true;x=false" =
      .ok m ∧
      m.get? "TITLE" = some "a=b" ∧ m.get? "subtitle" = none ∧ m.constants = .ok constants ∧
      ("debug", true) ∈ constants.entries ∧ ("debug", false) ∉ constants.entries) ∧
      Manifest.parse "ok=1\nbroken" = .error (.malformedLine 2 "broken") := by
  obtain ⟨found, refused, held⟩ := manifests_read_exactly
  have names : ∀ const ∈ [("debug", true), ("x", false)], ConstName const.1 := by
    intro const member
    rcases List.mem_pair.1 member with rfl | rfl <;>
      exact ⟨by decide, by decide, by decide, by decide⟩
  let bare : Padding := ⟨[], nofun, nofun⟩
  let space : Padding := ⟨[' '], List.forall_mem_singleton.2 (by decide), by decide⟩
  let tab : Padding := ⟨['\t'], List.forall_mem_singleton.2 (by decide), by decide⟩
  let title : Entry := ⟨"title", "a=b", by decide, by decide, by decide, by decide, by decide⟩
  let rows : List Row :=
    [.comment bare " remark".toList (by decide), .entry title space tab space space, .blank bare,
      .entry (constsEntry names) bare bare bare bare]
  have text : rendered rows = "# remark\n title\t= a=b \n\nbs_const=debug=true;x=false" := by
    apply String.toList_inj.1
    simp only [rendered, rows, List.map, Row.text, constsEntry, String.toList_ofList, bare,
      space, tab, title]
    decide
  have kept : entries rows = [title, constsEntry names] := rfl
  have distinct : ((entries rows).map Entry.key).Nodup := (by decide : ["title", "bs_const"].Nodup)
  obtain ⟨m, read, values, nothing⟩ := found rows distinct
  rw [text] at read
  obtain ⟨m', constants, read', made, same⟩ :=
    held _ names (by decide) rows distinct (by simp [kept])
  rw [text] at read'
  cases Except.ok.inj (read.symm.trans read')
  refine ⟨⟨m, constants, read, ?_, ?_, made, ?_, ?_⟩, ?_⟩
  · exact values title (by simp [kept]) "TITLE" (by decide)
  · refine nothing "subtitle" fun e member => ?_
    rw [kept] at member
    rcases List.mem_pair.1 member with rfl | rfl
    · exact (by decide : fold "subtitle" ≠ "title")
    · exact (by decide : fold "subtitle" ≠ "bs_const")
  · exact (same _).2 (by decide)
  · exact fun member => absurd ((same _).1 member) (by decide)
  · have cut : lines "ok=1\nbroken".toList = ["ok=1".toList] ++ "broken".toList :: [] := by decide
    have fine : ∀ line ∈ ["ok=1".toList], ¬ Malformed line := by
      intro line member malformed
      rw [List.mem_singleton.1 member] at malformed
      exact malformed.unequal (by decide)
    have broken : Malformed "broken".toList := ⟨by decide, by decide, by decide⟩
    exact (refused _ _).2 ⟨_, _, _, cut, fine, broken, by decide⟩

end Manifest

end BrightScript
