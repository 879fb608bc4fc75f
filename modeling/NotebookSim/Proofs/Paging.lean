import NotebookSim.Proofs.Cursor
/-!
Going from page to page. A client asks at some token, then at the token of each page, and stops at
the page that has none. Over a list that only grows at its end no item is lost and none is seen
twice; over a list that stays as it is the pages come to an end.
-/
namespace NotebookSim.Page

variable {α κ : Type}

/-- The pages of a client who goes from token to token up to the page without one. The relation
says with which pages the `i`-th question can be answered when it is asked at a token. -/
inductive Traversal (answers : Nat → Option String → Page α → Prop) :
    Nat → Option String → List (Page α) → Prop
  | last {i : Nat} {token : Option String} {page : Page α} (answered : answers i token page)
      (ends : page.nextToken = none) : Traversal answers i token [page]
  | more {i : Nat} {token : Option String} {page : Page α} {next : String}
      {pages : List (Page α)} (answered : answers i token page)
      (goesOn : page.nextToken = some next)
      (rest : Traversal answers (i + 1) (some next) pages) :
      Traversal answers i token (page :: pages)

/-! ## One page -/

theorem start_encode {offset : Nat} (word : offset ≤ Json.greatestWord) :
    start (some (Cursor.encode offset)) = .ok offset := by
  simp only [start, Cursor.decode?_encode word]

theorem cut_eq {token : Option String} {offset : Nat} (starts : start token = .ok offset)
    (items : List α) (size : Nat) :
    cut items size token =
      .ok ⟨(items.drop offset).take size,
        if min (offset + size) Json.greatestWord < items.length
          then some (Cursor.encode (min (offset + size) Json.greatestWord)) else none⟩ := by
  have opened : cut items size token =
      .ok ⟨(items.drop offset).take size,
        if ending offset size items.length < items.length
          then some (Cursor.encode (ending offset size items.length)) else none⟩ := by
    unfold cut
    rw [starts]
    rfl
  rw [opened, ending]
  by_cases within : min (offset + size) Json.greatestWord < items.length
  · rw [Nat.min_eq_left (Nat.le_of_lt within)]
  · rw [Nat.min_eq_right (Nat.le_of_not_lt within), if_neg within, if_neg (Nat.lt_irrefl _)]

/-- A page that was cut at a token: the token has an offset, and what follows of the list is told
by the token of the page. -/
theorem cut_cases {items : List α} {size : Nat} {token : Option String} {page : Page α}
    (cuts : cut items size token = .ok page) :
    ∃ offset, start token = .ok offset ∧ page.items = (items.drop offset).take size ∧
      (page.nextToken = none ∧ items.length ≤ offset + size ∧
        items.length ≤ Json.greatestWord ∨
      ∃ next, page.nextToken = some next ∧
        start (some next) = .ok (min (offset + size) Json.greatestWord) ∧
        min (offset + size) Json.greatestWord < items.length) := by
  cases starts : start token with
  | error e =>
    unfold cut at cuts
    rw [starts] at cuts
    cases cuts
  | ok offset =>
    rw [cut_eq starts] at cuts
    cases cuts
    refine ⟨offset, rfl, rfl, ?_⟩
    by_cases within : min (offset + size) Json.greatestWord < items.length
    · right
      simp only [if_pos within]
      exact ⟨_, rfl, start_encode (Nat.min_le_right ..), within⟩
    · left
      simp only [if_neg within, true_and]
      omega

section Told

variable {items : List α} {offset size : Nat} {token : Option String} {page : Page α}

theorem cut_last (starts : start token = .ok offset) (cuts : cut items size token = .ok page)
    (ends : page.nextToken = none) : page.items = items.drop offset := by
  obtain ⟨at', starts', part, ⟨-, reached, -⟩ | ⟨next, goesOn, -⟩⟩ := cut_cases cuts
  · cases starts.symm.trans starts'
    have whole : (items.drop offset).length ≤ size := by
      rw [List.length_drop]
      omega
    rw [part, List.take_of_length_le whole]
  · rw [ends] at goesOn
    cases goesOn

theorem cut_more (starts : start token = .ok offset) (cuts : cut items size token = .ok page)
    {next : String} (goesOn : page.nextToken = some next) :
    page.items = (items.drop offset).take size ∧
      start (some next) = .ok (min (offset + size) Json.greatestWord) ∧
      min (offset + size) Json.greatestWord < items.length := by
  obtain ⟨at', starts', part, ⟨ends, -⟩ | ⟨next', goesOn', follows, within⟩⟩ := cut_cases cuts
  · rw [ends] at goesOn
    cases goesOn
  · cases starts.symm.trans starts'
    cases goesOn.symm.trans goesOn'
    exact ⟨part, follows, within⟩

end Told

theorem cut_map {β : Type} (f : α → β) (items : List α) (size : Nat) (token : Option String) :
    cut (items.map f) size token = (cut items size token).map (Page.map f) := by
  cases starts : start token with
  | error e =>
    unfold cut
    rw [starts]
    rfl
  | ok offset =>
    rw [cut_eq starts, cut_eq starts, List.length_map, ← List.map_drop, ← List.map_take]
    rfl

theorem mem_of_cut {items : List α} {size : Nat} {token : Option String} {page : Page α}
    (cuts : cut items size token = .ok page) {x : α} (shown : x ∈ page.items) : x ∈ items := by
  obtain ⟨offset, -, part, -⟩ := cut_cases cuts
  rw [part] at shown
  exact List.mem_of_mem_drop (List.mem_of_mem_take shown)

theorem resolveSize_of_accepted {requested : Option Nat} {configured upper : Nat}
    {resolvable : IsResolvable requested upper}
    (accepted : ∀ n, requested = some n → 1 ≤ n ∧ n ≤ upper) :
    ∃ size, resolveSize requested configured upper resolvable = .ok size := by
  cases requested with
  | none => exact ⟨_, rfl⟩
  | some n =>
    obtain ⟨least, greatest⟩ := accepted n rfl
    have inRange : ¬ (n = 0 ∨ upper < n) := by omega
    exact ⟨_, dif_neg inRange⟩

/-! ## All pages -/

namespace Traversal

variable {answers : Nat → Option String → Page α → Prop} {i : Nat} {token : Option String}
  {pages : List (Page α)}

theorem length_pos (t : Traversal answers i token pages) : 1 ≤ pages.length := by
  cases t <;> simp

theorem imp {others : Nat → Option String → Page α → Prop}
    (also : ∀ i token page, answers i token page → others i token page)
    (t : Traversal answers i token pages) : Traversal others i token pages := by
  induction t with
  | last answered ends => exact .last (also _ _ _ answered) ends
  | more answered goesOn _ ih => exact .more (also _ _ _ answered) goesOn ih

theorem answered_of_getElem? (t : Traversal answers i token pages) {k : Nat} {page : Page α}
    (shown : pages[k]? = some page) : ∃ token, answers (i + k) token page := by
  induction t generalizing k with
  | last answered ends =>
    cases k with
    | zero => exact ⟨_, Option.some.inj shown ▸ answered⟩
    | succ k => cases shown
  | more answered goesOn rest ih =>
    cases k with
    | zero => exact ⟨_, Option.some.inj shown ▸ answered⟩
    | succ k =>
      obtain ⟨token, later⟩ := ih shown
      exact ⟨token, by rwa [Nat.add_right_comm] at later⟩

/-- The page without a token is the last one, and the last one has none. -/
theorem nextToken_eq_none_iff (t : Traversal answers i token pages) {k : Nat} {page : Page α}
    (shown : pages[k]? = some page) : page.nextToken = none ↔ k + 1 = pages.length := by
  induction t generalizing k with
  | last answered ends =>
    cases k with
    | zero => simp [← Option.some.inj shown, ends]
    | succ k => cases shown
  | more answered goesOn rest ih =>
    cases k with
    | zero =>
      have later := rest.length_pos
      simp only [← Option.some.inj shown, goesOn, List.length_cons]
      constructor
      · intro none
        cases none
      · intro
        omega
    | succ k => simpa using ih shown

section Growing

variable {held : Nat → List α}

theorem prefix_of_le {parts : Nat → List κ} (grows : ∀ i, parts i <+: parts (i + 1)) {i j : Nat}
    (le : i ≤ j) : parts i <+: parts j := by
  induction le with
  | refl => exact List.prefix_rfl
  | step _ ih => exact ih.trans (grows _)

/-- A list with a position past the last offset has no last page. -/
theorem length_le_greatestWord
    (cuts : ∀ i token page, answers i token page → ∃ size, cut (held i) size token = .ok page)
    (t : Traversal answers i token pages) :
    (held (i + (pages.length - 1))).length ≤ Json.greatestWord := by
  induction t with
  | last answered ends =>
    obtain ⟨size, cut⟩ := cuts _ _ _ answered
    obtain ⟨offset, -, -, ⟨-, -, fits⟩ | ⟨next, goesOn, -⟩⟩ := cut_cases cut
    · exact fits
    · rw [ends] at goesOn
      cases goesOn
  | more answered goesOn rest ih =>
    have later := rest.length_pos
    simp only [List.length_cons]
    rwa [Nat.add_assoc, Nat.add_comm 1, Nat.sub_add_cancel later] at ih

/-- While the keys of a list only grow at its end, the pages show the keys that are there when the
last page is asked for, from the first offset on. -/
theorem keys_eq (key : α → κ)
    (cuts : ∀ i token page, answers i token page → ∃ size, cut (held i) size token = .ok page)
    (grows : ∀ i, (held i).map key <+: (held (i + 1)).map key)
    (t : Traversal answers i token pages) {offset : Nat} (starts : start token = .ok offset) :
    pages.flatMap (fun page => page.items.map key) =
      ((held (i + (pages.length - 1))).map key).drop offset := by
  have fits := t.length_le_greatestWord cuts
  induction t generalizing offset with
  | last answered ends =>
    obtain ⟨size, cuts⟩ := cuts _ _ _ answered
    simp [cut_last starts cuts ends]
  | @more i token page next pages answered goesOn rest ih =>
    obtain ⟨size, cuts⟩ := cuts _ _ _ answered
    obtain ⟨part, follows, within⟩ := cut_more starts cuts goesOn
    have later := rest.length_pos
    have index : i + 1 + (pages.length - 1) = i + pages.length := by omega
    simp only [List.length_cons, Nat.add_sub_cancel] at fits ⊢
    rw [index] at ih
    obtain ⟨added, grown⟩ : (held i).map key <+: (held (i + pages.length)).map key :=
      prefix_of_le grows (Nat.le_add_right ..)
    -- the list never reaches the greatest offset, so the next page starts where this one ends
    have total : (held i).length ≤ (held (i + pages.length)).length := by
      have := congrArg List.length grown
      simp only [List.length_append, List.length_map] at this
      omega
    have stop : min (offset + size) Json.greatestWord = offset + size := by omega
    rw [stop] at follows within
    have shown : page.items.map key =
        (((held (i + pages.length)).map key).drop offset).take size := by
      rw [part, ← grown, List.map_take, List.map_drop, List.drop_append_of_le_length
        (by simp; omega), List.take_append_of_le_length (by simp; omega)]
    rw [List.flatMap_cons, shown, ih follows fits, ← List.drop_drop]
    exact List.take_append_drop ..

end Growing

section Constant

variable {items : List α} {size : Nat → Nat}

theorem items_eq
    (cuts : ∀ i token page, answers i token page → ∃ size, cut items size token = .ok page)
    (t : Traversal answers i token pages) {offset : Nat} (starts : start token = .ok offset) :
    pages.flatMap Page.items = items.drop offset := by
  have keys := t.keys_eq id cuts (fun _ => List.prefix_rfl) starts
  simpa using keys

/-- A page stands where the pages before it end. -/
theorem position (fits : items.length ≤ Json.greatestWord)
    (t : Traversal (fun i token page => cut items (size i) token = .ok page) i token pages)
    {offset : Nat} (starts : start token = .ok offset) {k : Nat} {page : Page α}
    (shown : pages[k]? = some page) :
    ∃ token, cut items (size (i + k)) token = .ok page ∧
      start token = .ok (offset + ((pages.take k).flatMap Page.items).length) := by
  induction t generalizing offset k with
  | last answered ends =>
    cases k with
    | zero => exact ⟨_, Option.some.inj shown ▸ answered, starts⟩
    | succ k => cases shown
  | @more i token first next pages answered goesOn rest ih =>
    cases k with
    | zero => exact ⟨_, Option.some.inj shown ▸ answered, starts⟩
    | succ k =>
      obtain ⟨part, follows, within⟩ := cut_more starts answered goesOn
      have stop : min (offset + size i) Json.greatestWord = offset + size i := by omega
      have full : first.items.length = size i := by
        rw [part, List.length_take, List.length_drop]
        omega
      rw [stop] at follows
      obtain ⟨token, cuts, stands⟩ := ih follows shown
      refine ⟨token, by rwa [Nat.add_right_comm] at cuts, ?_⟩
      rw [stands, List.take_succ_cons, List.flatMap_cons, List.length_append, full, Nat.add_assoc]

/-- A list that stays as it is has a last page, because every page takes something away. -/
theorem exists_of_fits (fits : items.length ≤ Json.greatestWord) (positive : ∀ i, 1 ≤ size i)
    (i : Nat) {token : Option String} {offset : Nat} (starts : start token = .ok offset) :
    ∃ pages, Traversal (fun i token page => cut items (size i) token = .ok page) i token pages := by
  generalize left : items.length - offset = remaining
  induction remaining using Nat.strongRecOn generalizing i token offset with
  | ind remaining ih =>
    have cuts := cut_eq starts items (size i)
    by_cases within : min (offset + size i) Json.greatestWord < items.length
    · have step := positive i
      have starts' := start_encode (Nat.min_le_right (offset + size i) Json.greatestWord)
      rw [if_pos within] at cuts
      obtain ⟨pages, rest⟩ := ih _ (by omega) (i + 1) starts' rfl
      exact ⟨_, .more cuts rfl rest⟩
    · rw [if_neg within] at cuts
      exact ⟨_, .last cuts rfl⟩

end Constant
end Traversal

/-- Whoever goes from token to token, at any start and with any page sizes that are accepted on the
way, is never refused, comes to an end, and sees every item from the start on, once and in order.
A page with a token is full, and there is a token as long as items remain. -/
theorem traversal_of_cut (items : List α) (fits : items.length ≤ Json.greatestWord)
    (requested : Nat → Option Nat) (configured upper size : Nat → Nat)
    (positive : ∀ i, 1 ≤ upper i)
    (accepted : ∀ i, ∃ bounds, resolveSize (requested i) (configured i) (upper i)
      (fun _ => positive i) = .ok ⟨size i, bounds⟩)
    (token : Option String) (offset : Nat)
    (starts : token = none ∧ offset = 0 ∨
      token = some (Cursor.encode offset) ∧ offset ≤ Json.greatestWord) :
    let answers := fun i token page => cut items (size i) token = .ok page
    (∃ pages, Traversal answers 0 token pages) ∧
    ∀ pages, Traversal answers 0 token pages →
      pages.flatMap Page.items = items.drop offset ∧
      ∀ k page, pages[k]? = some page →
        (1 ≤ size k ∧ size k ≤ upper k) ∧
        (page.nextToken.isSome → page.items.length = size k) ∧
        (page.nextToken = none ↔ k + 1 = pages.length) ∧
        (page.nextToken.isSome ↔
          offset + ((pages.take (k + 1)).flatMap Page.items).length < items.length) := by
  intro answers
  have inRange (i : Nat) : 1 ≤ size i ∧ size i ≤ upper i := by
    obtain ⟨bounds, -⟩ := accepted i
    exact bounds
  have begins : start token = .ok offset := by
    obtain ⟨rfl, rfl⟩ | ⟨rfl, word⟩ := starts
    · rfl
    · exact start_encode word
  constructor
  · exact Traversal.exists_of_fits fits (fun i => (inRange i).1) 0 begins
  · intro pages t
    refine ⟨t.items_eq (fun _ _ _ cuts => ⟨_, cuts⟩) begins, ?_⟩
    intro k page shown
    obtain ⟨at', cuts, stands⟩ := t.position fits begins shown
    rw [Nat.zero_add] at cuts
    obtain ⟨before, stands', part, told⟩ := cut_cases cuts
    cases stands.symm.trans stands'
    have length : page.items.length = min (size k) (items.length -
        (offset + ((pages.take k).flatMap Page.items).length)) := by
      rw [part, List.length_take, List.length_drop]
    have seen : ((pages.take (k + 1)).flatMap Page.items).length =
        ((pages.take k).flatMap Page.items).length + page.items.length := by
      rw [List.take_add_one, shown]
      simp
    refine ⟨inRange k, ?_, t.nextToken_eq_none_iff shown, ?_⟩
    · intro goesOn
      obtain ⟨ends, -⟩ | ⟨next, -, -, within⟩ := told
      · rw [ends] at goesOn
        cases goesOn
      · omega
    · obtain ⟨ends, reached, -⟩ | ⟨next, goesOn, -, within⟩ := told
      · simp only [ends, Option.isSome_none, Bool.false_eq_true, false_iff]
        omega
      · simp only [goesOn, Option.isSome_some, true_iff]
        omega

/-- Two items are asked for first, then as many as a configured size of zero gives. -/
theorem traversal_of_cut_fiveItems :
    let answers := fun i token page =>
      cut ["a", "b", "c", "d", "e"] (if i = 0 then 2 else 1) token = .ok page
    (∃ pages, Traversal answers 0 (some (Cursor.encode 1)) pages) ∧
    ∀ pages, Traversal answers 0 (some (Cursor.encode 1)) pages →
      pages.flatMap Page.items = ["b", "c", "d", "e"] := by
  intro answers
  obtain ⟨ends, all⟩ := traversal_of_cut ["a", "b", "c", "d", "e"] (by decide)
    (fun i => if i = 0 then some 2 else none) (fun _ => 0) (fun _ => 3)
    (fun i => if i = 0 then 2 else 1) (fun _ => by decide)
    (by
      intro i
      cases i with
      | zero => exact ⟨by decide, rfl⟩
      | succ i => exact ⟨by simp, rfl⟩)
    (some (Cursor.encode 1)) 1 (.inr ⟨rfl, by decide⟩)
  exact ⟨ends, fun pages t => (all pages t).1⟩

end NotebookSim.Page
