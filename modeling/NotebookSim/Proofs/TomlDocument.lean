import NotebookSim.Proofs.Cursor
import NotebookSim.Proofs.TomlText
import NotebookSim.Toml.Reader
/-!
A TOML document reads back as it was written: tables under headers of their own, each with its keys
and their values, be they strings, numbers or lists of strings.
-/
namespace NotebookSim.Toml

/-! ## Values -/

/-- The value that is read where a datum was written. -/
def Datum.value : Datum → Value
  | .string s => .string s
  | .natural n => .integer n
  | .strings ss => .array false (ss.map .string)

/-- Numbers are read up to a limit. -/
def Datum.Fits : Datum → Prop
  | .natural n => n < 1 <<< 128
  | _ => True

theorem skipFiller_of_solid {c : Char} (solid : c ∉ [' ', '\t', '\n', '\r', '#']) (cs : List Char) :
    skipFiller (c :: cs) = c :: cs := by
  have other (d : Char) (listed : d ∈ [' ', '\t', '\n', '\r', '#']) (cs' : List Char) :
      c :: cs ≠ d :: cs' := by
    intro same
    exact solid ((List.cons.inj same).1 ▸ listed)
  rw [skipFiller]
  · exact other ' ' (by decide)
  · exact other '\t' (by decide)
  · exact other '\n' (by decide)
  · exact fun rest => other '\r' (by decide) ('\n' :: rest)
  · exact other '#' (by decide)

theorem quoted_starts (cs : List Char) :
    ∃ quote body, quoted cs = quote :: body ∧ (quote = '"' ∨ quote = '\'') := by
  unfold quoted
  cases StringForm.of cs with
  | basic => exact ⟨_, _, rfl, .inl rfl⟩
  | literal => exact ⟨_, _, rfl, .inr rfl⟩
  | multilineBasic => exact ⟨_, _, rfl, .inl rfl⟩
  | multilineLiteral => exact ⟨_, _, rfl, .inr rfl⟩

theorem readValue_quoted (fuel depth : Nat) (s : String) {rest : List Char} (ends : NoQuote rest) :
    readValue (fuel + 1) depth (quoted s.toList ++ rest) = some (.string s, rest) := by
  have read := string?_quoted s.toList ends
  obtain ⟨quote, body, starts, rfl | rfl⟩ := quoted_starts s.toList
  · rw [starts, List.cons_append] at read ⊢
    rw [readValue, read]
    simp
  · rw [starts, List.cons_append] at read ⊢
    rw [readValue, read]
    simp

/-! ### Numbers -/

theorem ungrouped?_of_digits {cs : List Char} (some_digit : cs ≠ [])
    (digits : ∀ c ∈ cs, c.isDigit = true) : ungrouped? Char.isDigit cs = some cs := by
  induction cs with
  | nil => exact absurd rfl some_digit
  | cons c cs ih =>
    obtain ⟨here, later⟩ := List.forall_mem_cons.mp digits
    cases cs with
    | nil => exact if_pos here
    | cons d cs =>
      rw [ungrouped?, if_pos here, ih (List.cons_ne_nil d cs) later]
      · rfl
      · exact List.cons_ne_nil d cs
      · rintro rest same
        obtain ⟨rfl, -⟩ := List.cons.inj same
        exact absurd (later '_' List.mem_cons_self) (by decide)

theorem digits_ne_nil (n : Nat) : Text.digits n ≠ [] := Nat.toDigits_ne_nil

theorem decimalDigits?_digits (n : Nat) :
    decimalDigits? (Text.digits n) = some (Text.digits n) := by
  have read := ungrouped?_of_digits (digits_ne_nil n) fun _ => Text.isDigit_of_mem_digits
  unfold decimalDigits?
  rw [read]
  split
  · next zero =>
    cases Text.digits_leading_zero (Option.some.inj zero)
  · rfl

theorem isDigit_of_starts {n : Nat} {c : Char} {cs rest : List Char}
    (starts : Text.digits n ++ rest = c :: cs) : c.isDigit = true := by
  obtain ⟨d, ds, written⟩ := List.exists_cons_of_ne_nil (digits_ne_nil n)
  rw [written] at starts
  obtain ⟨rfl, -⟩ := List.cons.inj starts
  exact Text.isDigit_of_mem_digits (written ▸ List.mem_cons_self)

theorem signed_digits (n : Nat) : signed (Text.digits n) = (false, Text.digits n) := by
  have digit (c : Char) (cs : List Char) (starts : Text.digits n = c :: cs) : c.isDigit = true :=
    isDigit_of_starts ((List.append_nil _).trans starts)
  unfold signed
  split
  · next starts => exact absurd (digit _ _ starts) (by decide)
  · next starts => exact absurd (digit _ _ starts) (by decide)
  · rfl

theorem integer?_digits {n : Nat} (fits : n < 1 <<< 128) : integer? (Text.digits n) = some ↑n := by
  have inRange : fitsInteger n = true := by
    simp only [fitsInteger, Bool.and_eq_true, decide_eq_true_eq]
    omega
  unfold integer?
  split
  · next starts => cases Text.digits_leading_zero starts
  · next starts => cases Text.digits_leading_zero starts
  · next starts => cases Text.digits_leading_zero starts
  · rw [signed_digits]
    simp [decimalDigits?_digits, Text.digitsValue_digits, inRange]

theorem scalarText_digits (n : Nat) (rest : List Char) :
    scalarText (Text.digits n ++ '\n' :: rest) = (Text.digits n, '\n' :: rest) := by
  have scalar (c : Char) (digit : c ∈ Text.digits n) : isScalarChar c = true := by
    simp [isScalarChar, Char.isAlphanum, Text.isDigit_of_mem_digits digit]
  have taken : (Text.digits n ++ '\n' :: rest).takeWhile isScalarChar = Text.digits n := by
    rw [List.takeWhile_append_of_pos scalar, List.takeWhile_cons_of_neg (by decide),
      List.append_nil]
  have dropped : (Text.digits n ++ '\n' :: rest).dropWhile isScalarChar = '\n' :: rest := by
    rw [List.dropWhile_append_of_pos scalar, List.dropWhile_cons_of_neg (by decide)]
  unfold scalarText
  rw [taken, dropped]
  rfl

theorem scalarValue?_digits {n : Nat} (fits : n < 1 <<< 128) :
    scalarValue? (Text.digits n) = some (.integer n) := by
  have word (c : Char) (cs : List Char) (noDigit : c.isDigit = false) :
      Text.digits n ≠ c :: cs := by
    intro same
    exact absurd (isDigit_of_starts ((List.append_nil _).trans same)) (by rw [noDigit]; decide)
  rw [scalarValue?, if_neg (word 't' _ (by decide)), if_neg (word 'f' _ (by decide)),
    integer?_digits fits]

theorem readValue_digits (fuel depth : Nat) {n : Nat} (fits : n < 1 <<< 128) (rest : List Char) :
    readValue (fuel + 1) depth (Text.digits n ++ '\n' :: rest) =
      some (.integer n, '\n' :: rest) := by
  have other (c : Char) (noDigit : c.isDigit = false) (cs : List Char) :
      Text.digits n ++ '\n' :: rest ≠ c :: cs := by
    intro starts
    exact absurd (isDigit_of_starts starts) (by rw [noDigit]; decide)
  rw [readValue, scalarText_digits]
  · dsimp only
    rw [scalarValue?_digits fits]
    rfl
  · exact other '[' (by decide)
  · exact other '\x7b' (by decide)
  · exact other '"' (by decide)
  · exact other '\'' (by decide)

/-! ### Lists -/

theorem skipFiller_quoted (s : String) (rest : List Char) :
    skipFiller (quoted s.toList ++ rest) = quoted s.toList ++ rest := by
  obtain ⟨quote, body, starts, quotes⟩ := quoted_starts s.toList
  rw [starts, List.cons_append]
  exact skipFiller_of_solid (by obtain rfl | rfl := quotes <;> decide) _

theorem quoted_ne_bracket (s : String) (rest rest' : List Char) :
    quoted s.toList ++ rest ≠ ']' :: rest' := by
  obtain ⟨quote, body, starts, quotes⟩ := quoted_starts s.toList
  rw [starts]
  obtain rfl | rfl := quotes <;> simp

theorem readItems_last (fuel depth : Nat) (s : String) (rest : List Char) :
    readItems (fuel + 2) depth (quoted s.toList ++ ']' :: rest) = some ([.string s], rest) := by
  rw [readItems, readValue_quoted fuel depth s (by simp [NoQuote])]
  · dsimp only
    rw [skipFiller_of_solid (by decide)]
    rfl
  · exact quoted_ne_bracket s _

theorem readItems_next (fuel depth : Nat) (s : String) (rest : List Char) :
    readItems (fuel + 2) depth (quoted s.toList ++ ',' :: rest) =
      (readItems (fuel + 1) depth (skipFiller rest)).map fun (items, rest) =>
        (.string s :: items, rest) := by
  rw [readItems, readValue_quoted fuel depth s (by simp [NoQuote])]
  · dsimp only
    rw [skipFiller_of_solid (by decide)]
    rfl
  · exact quoted_ne_bracket s _

/-- A string on a line of its own. -/
def itemLine (s : String) : List Char := [' ', ' ', ' ', ' '] ++ quoted s.toList ++ [',', '\n']

theorem skipFiller_itemLine (s : String) (rest : List Char) :
    skipFiller (itemLine s ++ rest) = quoted s.toList ++ ',' :: '\n' :: rest := by
  simp [itemLine, skipFiller, skipFiller_quoted]

theorem readItems_itemLines {fuel : Nat} (depth : Nat) {ss : List String}
    (enough : ss.length + 1 ≤ fuel) (rest : List Char) :
    readItems fuel depth (skipFiller (ss.flatMap itemLine ++ ']' :: rest)) =
      some (ss.map .string, rest) := by
  induction ss generalizing fuel with
  | nil =>
    obtain ⟨fuel, rfl⟩ := Nat.exists_eq_add_of_le' enough
    rw [List.flatMap_nil, List.nil_append, skipFiller_of_solid (by decide)]
    rfl
  | cons s ss ih =>
    have two : 2 ≤ fuel := Nat.le_trans (Nat.le_add_left 2 ss.length) enough
    obtain ⟨fuel, rfl⟩ := Nat.exists_eq_add_of_le' two
    have enough : ss.length + 1 ≤ fuel + 1 := Nat.le_of_succ_le_succ enough
    rw [List.flatMap_cons, List.append_assoc, skipFiller_itemLine, readItems_next, skipFiller,
      ih enough]
    rfl

theorem listed_of_two (s t : String) (ss : List String) : listed (s :: t :: ss) =
    '[' :: '\n' :: ((s :: t :: ss).flatMap itemLine ++ [']']) := rfl

theorem length_le_listed (ss : List String) : ss.length ≤ (listed ss).length := by
  match ss with
  | [] => exact Nat.zero_le _
  | [s] => exact Nat.le_add_left 1 _
  | s :: t :: ss =>
    have lines (ss : List String) : ss.length ≤ (ss.flatMap itemLine).length := by
      induction ss with
      | nil => exact Nat.zero_le _
      | cons s ss ih =>
        simp only [List.flatMap_cons, itemLine, List.length_append, List.length_cons]
        omega
    refine Nat.le_trans (lines (s :: t :: ss)) ?_
    rw [listed_of_two]
    simp only [List.length_cons, List.length_append]
    omega

theorem readValue_listed {fuel : Nat} (depth : Nat) {ss : List String}
    (enough : ss.length + 2 ≤ fuel) (rest : List Char) :
    readValue fuel (depth + 1) (listed ss ++ rest) =
      some (.array false (ss.map .string), rest) := by
  obtain ⟨fuel, rfl⟩ := Nat.exists_eq_add_of_le' (Nat.le_trans (Nat.le_add_left 2 _) enough)
  match ss with
  | [] =>
    rw [listed, List.cons_append, readValue, List.cons_append, List.nil_append,
      skipFiller_of_solid (by decide)]
    rfl
  | [s] =>
    obtain ⟨fuel, rfl⟩ : ∃ more, fuel = more + 1 := ⟨fuel - 1, by simp at enough; omega⟩
    rw [listed, List.append_assoc, List.cons_append, readValue]
    dsimp only
    rw [skipFiller_quoted, List.cons_append, List.nil_append, readItems_last]
    rfl
  | s :: t :: ss =>
    rw [listed_of_two, List.cons_append, readValue]
    dsimp only
    rw [List.cons_append, skipFiller, List.append_assoc, List.cons_append, List.nil_append,
      readItems_itemLines depth (by simp only [List.length_cons] at enough ⊢; omega)]
    rfl

/-- A value reads back before the end of its line. -/
theorem readValue_text {fuel : Nat} (depth : Nat) {d : Datum} (fits : d.Fits)
    (enough : d.text.length + 2 ≤ fuel) (rest : List Char) :
    readValue fuel (depth + 1) (d.text ++ '\n' :: rest) = some (d.value, '\n' :: rest) := by
  obtain ⟨fuel, rfl⟩ := Nat.exists_eq_add_of_le' (Nat.le_trans (Nat.le_add_left 2 _) enough)
  cases d with
  | string s => exact readValue_quoted (fuel + 1) (depth + 1) s (by simp [NoQuote])
  | natural n => exact readValue_digits (fuel + 1) (depth + 1) fits rest
  | strings ss =>
    have fewer := length_le_listed ss
    exact readValue_listed depth (Nat.le_trans (Nat.add_le_add_right fewer 2) enough) _

/-! ## Lines -/

/-- A key that stands without quotes. -/
def IsBare (key : String) : Prop := key.toList ≠ [] ∧ ∀ c ∈ key.toList, isBareKeyChar c = true

theorem IsBare.starts {key : String} (bare : IsBare key) :
    ∃ c cs, key.toList = c :: cs ∧ isBareKeyChar c = true := by
  obtain ⟨c, cs, starts⟩ := List.exists_cons_of_ne_nil bare.1
  exact ⟨c, cs, starts, bare.2 c (starts ▸ List.mem_cons_self)⟩

theorem IsBare.append_ne {key : String} (bare : IsBare key) {c : Char}
    (other : isBareKeyChar c = false) (rest cs : List Char) : key.toList ++ rest ≠ c :: cs := by
  obtain ⟨first, more, starts, isKey⟩ := bare.starts
  rw [starts]
  intro same
  obtain ⟨rfl, -⟩ := List.cons.inj same
  exact absurd isKey (by rw [other]; decide)

theorem keyPart?_bare {key : String} (bare : IsBare key) {c : Char} (ends : isBareKeyChar c = false)
    (rest : List Char) : keyPart? (key.toList ++ c :: rest) = some (key, c :: rest) := by
  have taken : (key.toList ++ c :: rest).takeWhile isBareKeyChar = key.toList := by
    rw [List.takeWhile_append_of_pos bare.2, List.takeWhile_cons_of_neg (by simp [ends]),
      List.append_nil]
  have dropped : (key.toList ++ c :: rest).dropWhile isBareKeyChar = c :: rest := by
    rw [List.dropWhile_append_of_pos bare.2, List.dropWhile_cons_of_neg (by simp [ends])]
  rw [keyPart?, taken, dropped]
  · split
    · next nothing => exact absurd nothing bare.1
    · rw [String.ofList_toList]
  · exact bare.append_ne (by decide) _
  · exact bare.append_ne (by decide) _

theorem key?_bare {key : String} (bare : IsBare key) {c d : Char} (ends : isBareKeyChar c = false)
    {rest more : List Char} (follows : skipSpace (c :: rest) = d :: more) (noDot : d ≠ '.') :
    key? keyLimit (key.toList ++ c :: rest) = some ([key], d :: more) := by
  rw [keyLimit, key?, keyPart?_bare bare ends]
  dsimp only
  rw [follows]
  split
  · next dot => exact absurd (List.cons.inj dot).1 noDot
  · rfl

theorem Datum.text_starts (d : Datum) : ∃ c cs, d.text = c :: cs ∧ isSpace c = false := by
  cases d with
  | string s =>
    obtain ⟨quote, body, starts, rfl | rfl⟩ := quoted_starts s.toList
    · exact ⟨_, body, starts, by decide⟩
    · exact ⟨_, body, starts, by decide⟩
  | natural n =>
    obtain ⟨c, cs, starts⟩ := List.exists_cons_of_ne_nil (digits_ne_nil n)
    have digit := isDigit_of_starts ((List.append_nil _).trans starts)
    refine ⟨c, cs, starts, ?_⟩
    rw [isSpace, Bool.or_eq_false_iff]
    refine ⟨beq_false_of_ne ?_, beq_false_of_ne ?_⟩ <;>
    · rintro rfl
      exact absurd digit (by decide)
  | strings ss =>
    match ss with
    | [] => exact ⟨_, _, rfl, by decide⟩
    | [s] => exact ⟨_, _, rfl, by decide⟩
    | s :: t :: ss => exact ⟨_, _, listed_of_two s t ss, by decide⟩

/-- The line of a key. -/
def entryLine (entry : String × Datum) : List Char :=
  entry.1.toList ++ [' ', '=', ' '] ++ entry.2.text ++ ['\n']

theorem linesOf_eq (entries : List (String × Datum)) :
    linesOf entries = entries.flatMap entryLine := rfl

theorem statement?_entryLine {key : String} {d : Datum} (bare : IsBare key) (fits : d.Fits)
    (rest : List Char) : statement? (entryLine (key, d) ++ rest) =
      some (.entry [key] d.value, '\n' :: rest) := by
  have line : entryLine (key, d) ++ rest =
      key.toList ++ ' ' :: '=' :: ' ' :: (d.text ++ '\n' :: rest) := by
    simp [entryLine]
  have equals : skipSpace (' ' :: '=' :: ' ' :: (d.text ++ '\n' :: rest)) =
      '=' :: ' ' :: (d.text ++ '\n' :: rest) := rfl
  have value : skipSpace (' ' :: (d.text ++ '\n' :: rest)) = d.text ++ '\n' :: rest := by
    obtain ⟨c, cs, starts, solid⟩ := d.text_starts
    rw [starts, List.cons_append, skipSpace, List.dropWhile_cons_of_pos (by decide),
      List.dropWhile_cons_of_neg (by simp [solid])]
  have key : keyAndEquals? skipSpace (entryLine (key, d) ++ rest) =
      some ([key], d.text ++ '\n' :: rest) := by
    rw [line, keyAndEquals?, key?_bare bare (by decide) equals (by decide)]
    simp only [skipSpace, List.dropWhile_cons_of_neg (show ¬ isSpace '=' = true by decide)]
    exact congrArg (fun rest => some ([_], rest)) value
  have enough : d.text.length + 2 ≤ 2 * (d.text ++ '\n' :: rest).length + 2 := by
    rw [List.length_append]
    omega
  rw [line] at key ⊢
  rw [statement?]
  · rw [key]
    dsimp only
    rw [depthLimit, readValue_text 79 fits enough]
    rfl
  · exact fun cs => bare.append_ne (by decide) _ ('[' :: cs)
  · exact bare.append_ne (by decide) _

theorem statement?_header {name : String} (bare : IsBare name) (rest : List Char) :
    statement? ('[' :: (name.toList ++ ']' :: rest)) = some (.table [name], rest) := by
  have front : skipSpace (name.toList ++ ']' :: rest) = name.toList ++ ']' :: rest := by
    obtain ⟨c, cs, starts, isKey⟩ := bare.starts
    have solid : ¬ isSpace c = true := by
      intro space
      obtain rfl | rfl : c = ' ' ∨ c = '\t' := by simpa [isSpace] using space
      · exact absurd isKey (by decide)
      · exact absurd isKey (by decide)
    rw [starts, List.cons_append, skipSpace, List.dropWhile_cons_of_neg solid]
  have bracket : skipSpace (']' :: rest) = ']' :: rest := rfl
  rw [statement?, header?, front, key?_bare bare (by decide) bracket (by decide)]
  · rfl
  · exact bare.append_ne (by decide) _

/-! ## Documents -/

theorem skipFiller_bare {key : String} (bare : IsBare key) (rest : List Char) :
    skipFiller (key.toList ++ rest) = key.toList ++ rest := by
  obtain ⟨c, cs, starts, isKey⟩ := bare.starts
  rw [starts, List.cons_append]
  refine skipFiller_of_solid ?_ _
  intro filler
  have none : [' ', '\t', '\n', '\r', '#'].any isBareKeyChar = false := by decide
  exact List.any_eq_false.mp none c filler isKey

theorem statements?_cons {cs rest rest' : List Char} {s : Statement} (nonempty : skipFiller cs ≠ [])
    (here : statement? (skipFiller cs) = some (s, rest)) (line : afterLine? rest = some rest')
    (fuel : Nat) : statements? (fuel + 1) cs = (statements? fuel rest').map (s :: ·) := by
  rw [statements?]
  split
  · next nothing => exact absurd nothing nonempty
  · rw [here]
    dsimp only
    rw [line]

theorem statements?_newline (fuel : Nat) (cs : List Char) :
    statements? fuel ('\n' :: cs) = statements? fuel cs := by
  cases fuel with
  | zero => rfl
  | succ fuel => rw [statements?, statements?, skipFiller]

/-- A table to be written: its name, and its keys with their values. -/
abbrev Section := String × List (String × Datum)

namespace Section

/-- The name and the keys need no quotes, and the values can be read. -/
structure Writable (table : Section) : Prop where
  name : IsBare table.1
  keys : ∀ e ∈ table.2, IsBare e.1
  fits : ∀ e ∈ table.2, e.2.Fits
  distinct : (table.2.map Prod.fst).Nodup

def values (table : Section) : Entries := table.2.map fun e => (e.1, e.2.value)

def statements (table : Section) : List Statement :=
  .table [table.1] :: table.2.map fun e => .entry [e.1] e.2.value

end Section

theorem statements?_linesOf {entries : List (String × Datum)} (bare : ∀ e ∈ entries, IsBare e.1)
    (fits : ∀ e ∈ entries, e.2.Fits) (fuel : Nat) (rest : List Char) :
    statements? (fuel + entries.length) (linesOf entries ++ rest) =
      (statements? fuel rest).map ((entries.map fun e => .entry [e.1] e.2.value) ++ ·) := by
  induction entries with
  | nil => simp [linesOf]
  | cons e entries ih =>
    obtain ⟨bareHere, bareLater⟩ := List.forall_mem_cons.mp bare
    obtain ⟨fitsHere, fitsLater⟩ := List.forall_mem_cons.mp fits
    have split : linesOf (e :: entries) ++ rest = entryLine e ++ (linesOf entries ++ rest) := by
      rw [linesOf_eq, linesOf_eq, List.flatMap_cons, List.append_assoc]
    have solid (rest : List Char) : skipFiller (entryLine e ++ rest) = entryLine e ++ rest := by
      simp only [entryLine, List.append_assoc]
      exact skipFiller_bare bareHere _
    have nonempty : skipFiller (entryLine e ++ (linesOf entries ++ rest)) ≠ [] := by
      rw [solid]
      simp [entryLine]
    have here := statement?_entryLine bareHere fitsHere (linesOf entries ++ rest)
    rw [← solid] at here
    rw [split, List.length_cons, ← Nat.add_assoc, statements?_cons nonempty here rfl,
      ih bareLater fitsLater, Option.map_map]
    rfl

theorem statements?_sectionText {table : Section} (writable : table.Writable) (fuel : Nat)
    (rest : List Char) :
    statements? (fuel + table.statements.length) (sectionText table.1 table.2 ++ rest) =
      (statements? fuel rest).map (table.statements ++ ·) := by
  have front : sectionText table.1 table.2 ++ rest =
      '[' :: (table.1.toList ++ ']' :: '\n' :: (linesOf table.2 ++ rest)) := by
    simp [sectionText]
  have solid : skipFiller ('[' :: (table.1.toList ++ ']' :: '\n' :: (linesOf table.2 ++ rest))) =
      '[' :: (table.1.toList ++ ']' :: '\n' :: (linesOf table.2 ++ rest)) :=
    skipFiller_of_solid (by decide) _
  have here := statement?_header writable.name ('\n' :: (linesOf table.2 ++ rest))
  have count : fuel + table.statements.length = fuel + table.2.length + 1 := by
    simp [Section.statements, Nat.add_assoc]
  rw [← solid] at here
  rw [front, count, statements?_cons (by simp [solid]) here rfl,
    statements?_linesOf writable.keys writable.fits, Option.map_map]
  rfl

theorem document_cons_cons (table next : Section) (tables : List Section) :
    document (table :: next :: tables) =
      sectionText table.1 table.2 ++ '\n' :: document (next :: tables) := by
  simp [document, List.intercalate]

theorem statements?_nil (fuel : Nat) : statements? (fuel + 1) [] = some [] := by
  rw [statements?, skipFiller] <;> simp

theorem statements?_document {tables : List Section} (writable : ∀ t ∈ tables, t.Writable)
    {fuel : Nat} (enough : (tables.flatMap Section.statements).length + 1 ≤ fuel) :
    statements? fuel (document tables) = some (tables.flatMap Section.statements) := by
  induction tables generalizing fuel with
  | nil =>
    obtain ⟨fuel, rfl⟩ := Nat.exists_eq_add_of_le' enough
    exact statements?_nil fuel
  | cons table tables ih =>
    obtain ⟨here, later⟩ := List.forall_mem_cons.mp writable
    rw [List.flatMap_cons, List.length_append] at enough
    obtain ⟨fuel, rfl⟩ : ∃ more, fuel = more + table.statements.length :=
      ⟨fuel - table.statements.length, by omega⟩
    obtain ⟨rest, text, read⟩ : ∃ rest,
        document (table :: tables) = sectionText table.1 table.2 ++ rest ∧
        statements? fuel rest = some (tables.flatMap Section.statements) := by
      cases tables with
      | nil =>
        obtain ⟨fuel, rfl⟩ : ∃ more, fuel = more + 1 := ⟨fuel - 1, by omega⟩
        exact ⟨[], by simp [document], statements?_nil fuel⟩
      | cons next tables =>
        refine ⟨_, document_cons_cons table next tables, ?_⟩
        rw [statements?_newline, ih later (by omega)]
    rw [text, statements?_sectionText here, read]
    rfl

/-! ## Tables -/

section Draft

variable {root : Entries} {name : String}

theorem lookup_snoc (fresh : root.lookup name = none) (v : Value) :
    (root ++ [(name, v)]).lookup name = some v := by
  rw [List.lookup_append, fresh, Option.none_or, List.lookup_cons_self]

theorem replace_snoc (fresh : root.lookup name = none) (v v' : Value) :
    Table.replace name v' (root ++ [(name, v)]) = root ++ [(name, v')] := by
  induction root with
  | nil => simp [Table.replace]
  | cons entry root ih =>
    have other : entry.1 ≠ name := by
      rintro rfl
      simp at fresh
    rw [List.lookup_cons, beq_false_of_ne (Ne.symm other)] at fresh
    rw [List.cons_append, Table.replace, if_neg other, ih fresh, List.cons_append]

/-- A header opens a table at the end of the document. -/
theorem add_header (fresh : root.lookup name = none) (current : List String) :
    Draft.add ⟨root, current⟩ (.table [name]) =
      some ⟨root ++ [(name, .table .header [])], [name]⟩ := by
  rw [Draft.add, Table.openTable, fresh]
  rfl

/-- A line gives a value to a key of the table at work. -/
theorem add_entry (fresh : root.lookup name = none) {es : Entries} {key : String}
    (free : es.lookup key = none) (v : Value) :
    Draft.add ⟨root ++ [(name, .table .header es)], [name]⟩ (.entry [key] v) =
      some ⟨root ++ [(name, .table .header (es ++ [(key, v)]))], [name]⟩ := by
  have set : Table.within (Table.set true [key] v) [] es = some (es ++ [(key, v)]) := by
    rw [Table.within, Table.set, free]
    rfl
  rw [Draft.add, Table.within, lookup_snoc fresh]
  dsimp only
  rw [set, Option.map_some, Option.map_some, replace_snoc fresh]

theorem add_entries (fresh : root.lookup name = none) {entries : List (String × Datum)}
    (distinct : (entries.map Prod.fst).Nodup) {es : Entries}
    (free : ∀ e ∈ entries, es.lookup e.1 = none) :
    (entries.map fun e => Statement.entry [e.1] e.2.value).foldlM Draft.add
        ⟨root ++ [(name, .table .header es)], [name]⟩ =
      some ⟨root ++ [(name, .table .header (es ++ entries.map fun e => (e.1, e.2.value)))],
        [name]⟩ := by
  induction entries generalizing es with
  | nil => simp
  | cons e entries ih =>
    obtain ⟨apart, distinct⟩ := List.nodup_cons.mp distinct
    obtain ⟨freeHere, freeLater⟩ := List.forall_mem_cons.mp free
    have free (x : String × Datum) (member : x ∈ entries) :
        (es ++ [(e.1, e.2.value)]).lookup x.1 = none := by
      have other : x.1 ≠ e.1 := fun same => apart (same ▸ List.mem_map_of_mem member)
      rw [List.lookup_append, freeLater x member, List.lookup_cons, beq_false_of_ne other]
      rfl
    rw [List.map_cons, List.foldlM_cons, add_entry fresh freeHere, Option.bind_eq_bind,
      Option.bind_some, ih distinct free, List.append_assoc]
    rfl

end Draft

/-- The entry of a table in the document. -/
def Section.entry (table : Section) : String × Value := (table.1, .table .header table.values)

theorem add_sections {root : Entries} {tables : List Section} (writable : ∀ t ∈ tables, t.Writable)
    (distinct : (tables.map Prod.fst).Nodup) (free : ∀ t ∈ tables, root.lookup t.1 = none)
    (current : List String) :
    ((tables.flatMap Section.statements).foldlM Draft.add ⟨root, current⟩).map Draft.root =
      some (root ++ tables.map Section.entry) := by
  induction tables generalizing root current with
  | nil => simp
  | cons table tables ih =>
    obtain ⟨apart, distinct⟩ := List.nodup_cons.mp distinct
    obtain ⟨here, later⟩ := List.forall_mem_cons.mp writable
    obtain ⟨fresh, freeLater⟩ := List.forall_mem_cons.mp free
    have free (x : Section) (member : x ∈ tables) :
        (root ++ [table.entry]).lookup x.1 = none := by
      have other : x.1 ≠ table.1 := fun same => apart (same ▸ List.mem_map_of_mem member)
      rw [List.lookup_append, freeLater x member, Section.entry, List.lookup_cons,
        beq_false_of_ne other]
      rfl
    have empty (e : String × Datum) (_ : e ∈ table.2) : ([] : Entries).lookup e.1 = none := rfl
    rw [List.flatMap_cons, List.foldlM_append, Section.statements, List.foldlM_cons,
      add_header fresh, Option.bind_eq_bind, Option.bind_some,
      add_entries fresh here.distinct empty, Option.bind_some, List.map_cons]
    exact (ih later distinct free _).trans (by rw [List.append_assoc]; rfl)

/-- Each statement takes a character, so the length of the text is fuel enough. -/
theorem length_statements_le (tables : List Section) :
    (tables.flatMap Section.statements).length ≤ (document tables).length := by
  have lines (entries : List (String × Datum)) : entries.length ≤ (linesOf entries).length := by
    induction entries with
    | nil => exact Nat.zero_le _
    | cons e entries ih =>
      rw [linesOf_eq] at ih ⊢
      simp only [List.flatMap_cons, List.length_append, List.length_cons, entryLine]
      omega
  have alone (table : Section) :
      table.statements.length ≤ (sectionText table.1 table.2).length := by
    have shorter := lines table.2
    simp only [Section.statements, sectionText, List.length_append, List.length_cons,
      List.length_map]
    omega
  match tables with
  | [] => exact Nat.zero_le _
  | [table] => simpa [document] using alone table
  | table :: next :: tables =>
    have here := alone table
    have rest := length_statements_le (next :: tables)
    rw [document_cons_cons, List.flatMap_cons, List.length_append, List.length_append,
      List.length_cons]
    omega

theorem dropByteOrderMark_document (tables : List Section) :
    dropByteOrderMark (document tables) = document tables := by
  match tables with
  | [] => rfl
  | [table] => simp [document, sectionText, dropByteOrderMark]
  | table :: next :: tables =>
    rw [document_cons_cons, sectionText, List.cons_append, List.cons_append]
    rfl

/-- Tables under different names read back in their order, each with its keys in theirs. -/
theorem parse_document {tables : List Section} (writable : ∀ t ∈ tables, t.Writable)
    (distinct : (tables.map Prod.fst).Nodup) :
    parse (String.ofList (document tables)) = some (tables.map Section.entry) := by
  have read := statements?_document writable
    (Nat.add_le_add_right (length_statements_le tables) 1)
  rw [parse, String.toList_ofList, dropByteOrderMark_document, read, Option.bind_some,
    ofStatements?, add_sections writable distinct fun _ _ => rfl]
  rfl

end NotebookSim.Toml
