import NotebookSim.Toml.Printer
import NotebookSim.Toml.Text
/-!
A TOML string reads back as it was written. Each form holds what it is chosen for: escapes are read
as the characters they stand for, and of the quotes within three others at most two stand in a row,
even where the closing ones follow.
-/
namespace NotebookSim.Toml

/-! ## Escapes -/

theorem hexDigit?_upperHexDigit {d : Nat} (fits : d < 16) :
    Text.hexDigit? (Text.upperHexDigit d) = some d := by
  have all : ∀ d < 16, Text.hexDigit? (Text.upperHexDigit d) = some d := by decide
  exact all d fits

theorem hexValue?_hex4 {n : Nat} (fits : n < 65536) : Text.hexValue? (Text.hex4 n) = some n := by
  have digit (k : Nat) : Text.hexDigit? (Text.upperHexDigit (k % 16)) = some (k % 16) :=
    hexDigit?_upperHexDigit (Nat.mod_lt k (by decide))
  simp only [Text.hexValue?, Text.hex4, List.foldlM_cons, List.foldlM_nil, digit,
    Option.map_some, Option.bind_eq_bind, Option.bind_some, Option.pure_def]
  congr 1
  omega

theorem escape?_hex4 {c : Char} (fits : c.toNat < 65536) (rest : List Char) :
    escape? ('u' :: Text.hex4 c.toNat ++ rest) = some (c, rest) := by
  have valid : c.toNat.isValidChar := c.valid
  change hexEscape? 4 (Text.hex4 c.toNat ++ rest) = _
  have four : (Text.hex4 c.toNat).length = 4 := rfl
  rw [hexEscape?, if_pos (by simp [four]), List.take_left' four, List.drop_left' four,
    hexValue?_hex4 fits, Option.bind_some, Text.scalar?, if_pos valid, Char.ofNat_toNat]
  rfl

theorem isPlain_iff {c : Char} :
    isPlain c = true ↔ c = '\t' ∨ 0x20 ≤ c.toNat ∧ c.toNat ≠ 0x7F := by
  simp [isPlain]

/-- How a basic string may write a character: as an escape that reads back as the character, or as
itself where it may stand so. -/
inductive Escaped : Bool → Char → List Char → Prop
  | escape {multiline : Bool} {c : Char} {e : List Char}
    (reads : ∀ rest, escape? (e ++ rest) = some (c, rest))
    (goesOn : ∀ rest, endsLine (e ++ rest) = false) : Escaped multiline c ('\\' :: e)
  | plain {multiline : Bool} {c : Char} (plain : isPlain c = true) (other : c ≠ '\\') :
    Escaped multiline c [c]
  | newline : Escaped true '\n' ['\n']

theorem escaped_escapedChar (multiline : Bool) (c : Char) :
    Escaped multiline c (escapedChar multiline c) := by
  unfold escapedChar
  split
  · exact .escape (fun _ => rfl) fun _ => rfl
  · exact .escape (fun _ => rfl) fun _ => rfl
  · cases multiline with
    | true => exact .newline
    | false => exact .escape (fun _ => rfl) fun _ => rfl
  · exact .escape (fun _ => rfl) fun _ => rfl
  · exact .escape (fun _ => rfl) fun _ => rfl
  · exact .escape (fun _ => rfl) fun _ => rfl
  · next noBackslash =>
    split
    · next control => exact .escape (escape?_hex4 (by omega)) fun _ => rfl
    · next printable => exact .plain (isPlain_iff.mpr (.inr (by omega))) noBackslash

section EscapedBody

variable {multiline : Bool} {run : Nat} {c : Char} {cs : List Char}

theorem escapedBody_cons (other : c ≠ '"') (multiline : Bool) (run : Nat) (cs : List Char) :
    escapedBody multiline run (c :: cs) =
      escapedChar multiline c ++ escapedBody multiline 0 cs := by
  rw [escapedBody]
  rintro rfl
  exact other rfl

theorem escapedBody_quote_of_lt (room : run < 2) (cs : List Char) :
    escapedBody true run ('"' :: cs) = '"' :: escapedBody true (run + 1) cs := by
  rw [escapedBody, if_pos (by simpa using room)]

theorem escapedBody_quote_of_full (full : multiline = false ∨ 2 ≤ run) (cs : List Char) :
    escapedBody multiline run ('"' :: cs) = '\\' :: '"' :: escapedBody multiline 0 cs := by
  rw [escapedBody, if_neg]
  intro room
  rw [Bool.and_eq_true, decide_eq_true_eq] at room
  obtain single | full := full
  · exact absurd room.1 (by rw [single]; decide)
  · omega

/-- Only a quotation mark itself is written with a quotation mark in front. -/
theorem escapedBody_starts_quote {tail more : List Char}
    (starts : escapedBody multiline run (c :: cs) ++ tail = '"' :: more) :
    multiline = true ∧ run < 2 ∧ c = '"' ∧ escapedBody multiline (run + 1) cs ++ tail = more := by
  by_cases quote : c = '"'
  · subst quote
    by_cases full : multiline = false ∨ 2 ≤ run
    · rw [escapedBody_quote_of_full full] at starts
      simp at starts
    · obtain ⟨several, room⟩ := not_or.mp full
      obtain rfl : multiline = true := by simpa using several
      rw [escapedBody_quote_of_lt (by omega)] at starts
      exact ⟨rfl, by omega, rfl, (List.cons.inj starts).2⟩
  · rw [escapedBody_cons quote] at starts
    have written := escaped_escapedChar multiline c
    generalize escapedChar multiline c = text at written starts
    cases written with
    | escape => simp at starts
    | plain => exact absurd (List.cons.inj starts).1 quote
    | newline => simp at starts

end EscapedBody

/-! ## One line -/

theorem basic?_escape {cs rest : List Char} {c : Char} (reads : escape? cs = some (c, rest)) :
    basic? ('\\' :: cs) = (basic? rest).map fun (body, rest) => (c :: body, rest) := by
  rw [basic?]
  split
  · next none => cases none.symm.trans reads
  · next here =>
    cases here.symm.trans reads
    rfl

theorem basic?_plain {c : Char} (plain : isPlain c = true) (noQuote : c ≠ '"')
    (noBackslash : c ≠ '\\') (cs : List Char) :
    basic? (c :: cs) = (basic? cs).map fun (body, rest) => (c :: body, rest) := by
  rw [basic?]
  · exact if_pos plain
  · exact fun same => noQuote same
  · exact fun same => noBackslash same

theorem basic?_escapedBody (cs rest : List Char) (run : Nat) :
    basic? (escapedBody false run cs ++ '"' :: rest) = some (cs, rest) := by
  induction cs generalizing run with
  | nil => rw [escapedBody, List.nil_append, basic?]
  | cons c cs ih =>
    by_cases quote : c = '"'
    · subst quote
      rw [escapedBody_quote_of_full (.inl rfl), List.cons_append, List.cons_append,
        basic?_escape rfl, ih]
      rfl
    · rw [escapedBody_cons quote, List.append_assoc]
      have written := escaped_escapedChar false c
      generalize escapedChar false c = text at written ⊢
      cases written with
      | escape reads goesOn =>
        rw [List.cons_append, basic?_escape (reads _), ih]
        rfl
      | plain plain other =>
        rw [List.cons_append, List.nil_append, basic?_plain plain quote other, ih]
        rfl

theorem literal?_append {cs : List Char} (plain : ∀ c ∈ cs, isPlain c = true ∧ c ≠ '\'')
    (rest : List Char) : literal? (cs ++ '\'' :: rest) = some (cs, rest) := by
  induction cs with
  | nil => rfl
  | cons c cs ih =>
    obtain ⟨⟨plain, noQuote⟩, later⟩ := List.forall_mem_cons.mp plain
    rw [List.cons_append, literal?, if_pos plain, ih later]
    · rfl
    · exact fun same => noQuote same

/-! ## Several lines -/

theorem multilineBasic?_escape {cs rest : List Char} {c : Char} (goesOn : endsLine cs = false)
    (reads : escape? cs = some (c, rest)) : multilineBasic? ('\\' :: cs) =
      (multilineBasic? rest).map fun (body, rest) => (c :: body, rest) := by
  rw [multilineBasic?, if_neg (by rw [goesOn]; decide)]
  split
  · next none => cases none.symm.trans reads
  · next here =>
    cases here.symm.trans reads
    rfl

/-- A quotation mark is part of the text if it is not the first of three. -/
theorem multilineBasic?_plain {c : Char} {cs : List Char} (plain : isPlain c = true)
    (noBackslash : c ≠ '\\') (noEnd : ∀ rest, c :: cs ≠ '"' :: '"' :: '"' :: rest) :
    multilineBasic? (c :: cs) =
      (multilineBasic? cs).map fun (body, rest) => (c :: body, rest) := by
  have noControl (d : Char) (control : isPlain d = false) : c ≠ d := by
    rintro rfl
    exact absurd plain (by rw [control]; decide)
  rw [multilineBasic?]
  · exact if_pos plain
  · rintro rest rfl rfl
    exact noEnd rest rfl
  · exact noBackslash
  · exact noControl '\n' (by decide)
  · exact fun _ same _ => noControl '\r' (by decide) same

theorem multilineBasic?_newline (cs : List Char) : multilineBasic? ('\n' :: cs) =
    (multilineBasic? cs).map fun (body, rest) => ('\n' :: body, rest) := by
  rw [multilineBasic?]

theorem closing_replicate {quote : Char} {k : Nat} (few : k ≤ 2) {rest : List Char}
    (ends : rest.head? ≠ some quote) :
    closing quote (List.replicate k quote ++ rest) = (List.replicate k quote, rest) := by
  obtain rfl | rfl | rfl : k = 0 ∨ k = 1 ∨ k = 2 := by omega
  · match rest with
    | [] => rfl
    | [a] =>
      have other : a ≠ quote := by simpa using ends
      simp [closing, other]
    | a :: b :: rest =>
      have other : a ≠ quote := by simpa using ends
      simp [closing, other]
  · match rest with
    | [] => simp [closing]
    | a :: rest =>
      have other : a ≠ quote := by simpa using ends
      simp [closing, other]
  · simp [closing]

/-- Quotes at the end of the text stand before the closing ones, and read the same after them. -/
theorem replicate_append_triple (quote : Char) (k : Nat) (rest : List Char) :
    List.replicate k quote ++ quote :: quote :: quote :: rest =
      quote :: quote :: quote :: (List.replicate k quote ++ rest) := by
  have moved (rest : List Char) :
      List.replicate k quote ++ quote :: rest = quote :: (List.replicate k quote ++ rest) := by
    rw [← List.singleton_append, ← List.append_assoc, ← List.replicate_succ',
      List.replicate_succ, List.cons_append]
  rw [moved, moved, moved]

theorem escapedBody_replicate {k run : Nat} (few : k + run ≤ 2) :
    escapedBody true run (List.replicate k '"') = List.replicate k '"' := by
  induction k generalizing run with
  | zero => rfl
  | succ k ih =>
    rw [List.replicate_succ, escapedBody_quote_of_lt (by omega), ih (by omega)]

/-- With one quotation mark written, two more come only at the end of the text. -/
theorem replicate_of_starts_two {run : Nat} (written : 1 ≤ run) {cs tail more : List Char}
    (starts : escapedBody true run cs ++ tail = '"' :: '"' :: more) :
    ∃ k, cs = List.replicate k '"' ∧ k ≤ 2 - run := by
  cases cs with
  | nil => exact ⟨0, rfl, Nat.zero_le _⟩
  | cons c cs =>
    obtain ⟨-, room, rfl, second⟩ := escapedBody_starts_quote starts
    cases cs with
    | nil => exact ⟨1, rfl, by omega⟩
    | cons d cs =>
      obtain ⟨-, room, -⟩ := escapedBody_starts_quote second
      omega

theorem multilineBasic?_escapedBody {rest : List Char} (ends : rest.head? ≠ some '"')
    (cs : List Char) (run : Nat) :
    multilineBasic? (escapedBody true run cs ++ '"' :: '"' :: '"' :: rest) = some (cs, rest) := by
  have closes (k : Nat) (few : k ≤ 2) :
      multilineBasic? (List.replicate k '"' ++ '"' :: '"' :: '"' :: rest) =
        some (List.replicate k '"', rest) := by
    rw [replicate_append_triple, multilineBasic?, closing_replicate few ends]
  induction cs generalizing run with
  | nil => exact closes 0 (by decide)
  | cons c cs ih =>
    by_cases quote : c = '"'
    · subst quote
      by_cases room : run < 2
      · by_cases last : ∃ k, cs = List.replicate k '"' ∧ k ≤ 2 - (run + 1)
        · obtain ⟨k, rfl, few⟩ := last
          rw [← List.replicate_succ, escapedBody_replicate (by omega)]
          exact closes (k + 1) (by omega)
        · rw [escapedBody_quote_of_lt room, List.cons_append,
            multilineBasic?_plain (by decide) (by decide), ih]
          · rfl
          · intro more triple
            exact last (replicate_of_starts_two (by omega) (List.cons.inj triple).2)
      · rw [escapedBody_quote_of_full (.inr (by omega)), List.cons_append, List.cons_append,
          multilineBasic?_escape rfl rfl, ih]
        rfl
    · rw [escapedBody_cons quote, List.append_assoc]
      have written := escaped_escapedChar true c
      generalize escapedChar true c = text at written ⊢
      cases written with
      | escape reads goesOn =>
        rw [List.cons_append, multilineBasic?_escape (goesOn _) (reads _), ih]
        rfl
      | plain plain other =>
        rw [List.cons_append, List.nil_append, multilineBasic?_plain plain other, ih]
        · rfl
        · exact fun _ same => quote (List.cons.inj same).1
      | newline =>
        rw [List.cons_append, List.nil_append, multilineBasic?_newline, ih]
        rfl

/-! ### Literal strings -/

theorem le_longestRun (c : Char) (run : Nat) (cs : List Char) : run ≤ longestRun c run cs := by
  induction cs generalizing run with
  | nil => exact Nat.le_refl run
  | cons d cs ih =>
    rw [longestRun]
    split
    · exact Nat.le_of_succ_le (ih (run + 1))
    · exact Nat.le_max_left _ _

theorem longestRun_le_succ (c : Char) (run : Nat) (cs : List Char) :
    longestRun c run cs ≤ longestRun c (run + 1) cs := by
  induction cs generalizing run with
  | nil => exact Nat.le_succ run
  | cons d cs ih =>
    rw [longestRun, longestRun]
    split
    · exact ih (run + 1)
    · omega

theorem longestRun_tail_le (c d : Char) (cs : List Char) :
    longestRun c 0 cs ≤ longestRun c 0 (d :: cs) := by
  rw [longestRun]
  split
  · exact longestRun_le_succ c 0 cs
  · exact Nat.le_max_right _ _

/-- Three quotes in front are the closing ones, after those at the end of the text. -/
theorem replicate_of_starts_three {quote : Char} {cs rest more : List Char}
    (runs : longestRun quote 0 cs ≤ 2)
    (starts : cs ++ quote :: rest = quote :: quote :: quote :: more) :
    ∃ k, cs = List.replicate k quote ∧ k ≤ 2 := by
  match cs with
  | [] => exact ⟨0, rfl, by decide⟩
  | [a] =>
    cases starts
    exact ⟨1, rfl, by decide⟩
  | [a, b] =>
    cases starts
    exact ⟨2, rfl, by decide⟩
  | a :: b :: c :: cs =>
    obtain ⟨rfl, starts⟩ := List.cons.inj starts
    obtain ⟨rfl, starts⟩ := List.cons.inj starts
    obtain ⟨rfl, -⟩ := List.cons.inj starts
    simp only [longestRun, if_true] at runs
    have three := le_longestRun c (0 + 1 + 1 + 1) cs
    omega

theorem multilineLiteral?_append {cs : List Char}
    (plain : ∀ c ∈ cs, c = '\n' ∨ isPlain c = true) (runs : longestRun '\'' 0 cs ≤ 2)
    {rest : List Char} (ends : rest.head? ≠ some '\'') :
    multilineLiteral? (cs ++ '\'' :: '\'' :: '\'' :: rest) = some (cs, rest) := by
  induction cs with
  | nil => rw [List.nil_append, multilineLiteral?, show closing '\'' rest = ([], rest) from
      closing_replicate (Nat.zero_le 2) ends]
  | cons c cs ih =>
    obtain ⟨here, later⟩ := List.forall_mem_cons.mp plain
    have ih := ih later (Nat.le_trans (longestRun_tail_le _ c cs) runs)
    by_cases last : ∃ k, c :: cs = List.replicate k '\'' ∧ k ≤ 2
    · obtain ⟨k, same, few⟩ := last
      rw [same, replicate_append_triple, multilineLiteral?, closing_replicate few ends]
    · rw [List.cons_append]
      obtain rfl | here := here
      · rw [multilineLiteral?, ih]
        rfl
      · have noControl (d : Char) (control : isPlain d = false) : c ≠ d := by
          rintro rfl
          exact absurd here (by rw [control]; decide)
        rw [multilineLiteral?, if_pos here, ih]
        · rfl
        · rintro more rfl same
          exact last (replicate_of_starts_three runs (congrArg _ same))
        · exact noControl '\n' (by decide)
        · exact fun _ same _ => noControl '\r' (by decide) same

/-! ## Quoted strings -/

theorem isPlain_of_needsNoEscape {c : Char} (fine : needsEscape c = false) :
    c = '\n' ∨ isPlain c = true := by
  by_cases newline : c = '\n'
  · exact .inl newline
  · refine .inr (isPlain_iff.mpr ?_)
    by_cases tab : c = '\t'
    · exact .inl tab
    · have last : c.toNat ≠ 0x7F := by
        intro same
        obtain rfl : c = '\x7f' := Char.toNat_inj.mp same
        simp [needsEscape] at fine
      have high : ¬ c.toNat < 0x20 := by
        intro low
        simp [needsEscape, newline, tab, low] at fine
      exact .inr ⟨by omega, last⟩

/-- What follows a string does not start with a quote. -/
def NoQuote (rest : List Char) : Prop := rest.head? ≠ some '"' ∧ rest.head? ≠ some '\''

theorem string?_basic (cs : List Char) {rest : List Char} (ends : NoQuote rest) :
    string? ('"' :: (escapedBody false 0 cs ++ '"' :: rest)) = some (cs, rest) := by
  have read := basic?_escapedBody cs rest 0
  rw [string?]
  · exact read
  · intro more triple
    cases cs with
    | nil => exact ends.1 (by rw [(List.cons.inj triple).2]; rfl)
    | cons c cs =>
      obtain ⟨several, -⟩ := escapedBody_starts_quote triple
      cases several

theorem string?_literal {cs : List Char} (plain : ∀ c ∈ cs, isPlain c = true ∧ c ≠ '\'')
    {rest : List Char} (ends : NoQuote rest) :
    string? ('\'' :: (cs ++ '\'' :: rest)) = some (cs, rest) := by
  rw [string?]
  · exact literal?_append plain rest
  · intro more triple
    cases cs with
    | nil => exact ends.2 (by rw [(List.cons.inj triple).2]; rfl)
    | cons c cs => exact (plain c List.mem_cons_self).2 (List.cons.inj triple).1

theorem dropNewline_of_plain {c : Char} (plain : isPlain c = true) (cs : List Char) :
    dropNewline (c :: cs) = c :: cs := by
  rw [dropNewline]
  · rintro rest same
    obtain ⟨rfl, -⟩ := List.cons.inj same
    exact absurd plain (by decide)
  · rintro rest same
    obtain ⟨rfl, -⟩ := List.cons.inj same
    exact absurd plain (by decide)

/-- The newline that is written after the opening quotes is not read, and no other is taken for
it. -/
theorem dropNewline_opening {lines : Bool} {cs : List Char}
    (stays : lines = false → dropNewline cs = cs) :
    dropNewline ((if lines then ['\n'] else []) ++ cs) = cs := by
  cases lines with
  | true => rfl
  | false => exact stays rfl

theorem tripled_append (quote : Char) (lines : Bool) (body rest : List Char) :
    tripled quote lines body ++ rest = quote :: quote :: quote ::
      ((if lines then ['\n'] else []) ++ (body ++ quote :: quote :: quote :: rest)) := by
  simp [tripled]

theorem string?_multilineBasic (cs : List Char) {rest : List Char} (ends : NoQuote rest) :
    string? (tripled '"' (cs.contains '\n') (escapedBody true 0 cs) ++ rest) =
      some (cs, rest) := by
  have stays (noLines : cs.contains '\n' = false) :
      dropNewline (escapedBody true 0 cs ++ '"' :: '"' :: '"' :: rest) =
        escapedBody true 0 cs ++ '"' :: '"' :: '"' :: rest := by
    cases cs with
    | nil => rfl
    | cons c cs =>
      by_cases quote : c = '"'
      · subst quote
        rw [escapedBody_quote_of_lt (by decide)]
        exact dropNewline_of_plain (by decide) _
      · rw [escapedBody_cons quote]
        have written := escaped_escapedChar true c
        generalize escapedChar true c = text at written ⊢
        cases written with
        | escape => exact dropNewline_of_plain (by decide) _
        | plain plain => exact dropNewline_of_plain plain _
        | newline => simp at noLines
  rw [tripled_append, string?, dropNewline_opening stays, multilineBasic?_escapedBody ends.1]

theorem string?_multilineLiteral {cs : List Char}
    (plain : ∀ c ∈ cs, c = '\n' ∨ isPlain c = true) (runs : longestRun '\'' 0 cs ≤ 2)
    {rest : List Char} (ends : NoQuote rest) :
    string? (tripled '\'' (cs.contains '\n') cs ++ rest) = some (cs, rest) := by
  have stays (noLines : cs.contains '\n' = false) :
      dropNewline (cs ++ '\'' :: '\'' :: '\'' :: rest) =
        cs ++ '\'' :: '\'' :: '\'' :: rest := by
    cases cs with
    | nil => rfl
    | cons c cs =>
      obtain rfl | here := plain c List.mem_cons_self
      · simp at noLines
      · exact dropNewline_of_plain here _
  rw [tripled_append, string?, dropNewline_opening stays,
    multilineLiteral?_append plain runs ends.2]

theorem StringForm.of_eq_literal {cs : List Char} (form : StringForm.of cs = .literal) :
    cs.any needsEscape = false ∧ cs.contains '\n' = false ∧ cs.contains '\'' = false := by
  unfold StringForm.of at form
  dsimp only at form
  split at form
  · cases form
  · split at form
    · next literal =>
      simp only [Bool.and_eq_true, Bool.not_eq_true'] at literal
      exact ⟨literal.1.1, literal.1.2, literal.2⟩
    · repeat' split at form
      all_goals cases form

theorem StringForm.of_eq_multilineLiteral {cs : List Char}
    (form : StringForm.of cs = .multilineLiteral) :
    cs.any needsEscape = false ∧ longestRun '\'' 0 cs ≤ 2 := by
  unfold StringForm.of at form
  dsimp only at form
  split at form
  · cases form
  split at form
  · cases form
  split at form
  · cases form
  split at form
  · next literal => simpa using literal
  · split at form <;> cases form

/-- A string reads back, whatever its characters are. -/
theorem string?_quoted (cs : List Char) {rest : List Char} (ends : NoQuote rest) :
    string? (quoted cs ++ rest) = some (cs, rest) := by
  have fine (escapes : cs.any needsEscape = false) (c : Char) (member : c ∈ cs) :
      c = '\n' ∨ isPlain c = true :=
    isPlain_of_needsNoEscape (by simpa using List.any_eq_false.mp escapes c member)
  unfold quoted
  cases form : StringForm.of cs with
  | basic => simpa using string?_basic cs ends
  | literal =>
    obtain ⟨escapes, lines, quotes⟩ := StringForm.of_eq_literal form
    have plain (c : Char) (member : c ∈ cs) : isPlain c = true ∧ c ≠ '\'' := by
      refine ⟨(fine escapes c member).resolve_left ?_, ?_⟩
      · rintro rfl
        simp [member] at lines
      · rintro rfl
        simp [member] at quotes
    simpa using string?_literal plain ends
  | multilineBasic => exact string?_multilineBasic cs ends
  | multilineLiteral =>
    obtain ⟨escapes, runs⟩ := StringForm.of_eq_multilineLiteral form
    exact string?_multilineLiteral (fine escapes) runs ends

example : ["ml.t3.medium", "C:\\ml", "\"it's\"", "\\'", "\x7f"].map (fun s => .of s.toList) =
    [StringForm.basic, .literal, .multilineBasic, .multilineLiteral, .basic] := by decide

end NotebookSim.Toml
