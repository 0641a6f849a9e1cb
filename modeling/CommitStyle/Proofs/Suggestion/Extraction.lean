import CommitStyle.Proofs.Json.Plainness
import CommitStyle.Suggestion.Titles

/-! Titles out of an answer that says more. The titles are looked for between the first
opening bracket and the last closing one. So a list that was written is recovered whatever
stands in front of it without an opening bracket; but a closing bracket behind it is taken
for the end of the list, and then there is too much to be read. -/

namespace CommitStyle.Suggestion

/-! ## Brackets -/

theorem dropWhile_sign {d : Char} {s : List Char} (h : d ∉ s) (rest : List Char) :
    (s ++ d :: rest).dropWhile (· != d) = d :: rest := by
  rw [List.dropWhile_append_of_pos]
  · simp
  · intro c hc
    rw [bne_iff_ne]
    rintro rfl
    exact h hc

theorem bracketed?_eq {front back : List Char} (hfront : '[' ∉ front) (inner : List Char)
    (hback : ']' ∉ back) :
    bracketed? (front ++ '[' :: (inner ++ ']' :: back)) = some ('[' :: (inner ++ [']'])) := by
  have hreverse : ('[' :: (inner ++ ']' :: back)).reverse =
      back.reverse ++ ']' :: ('[' :: inner).reverse := by simp
  have hback' : ']' ∉ back.reverse := by rwa [List.mem_reverse]
  rw [bracketed?, dropWhile_sign hfront, hreverse, dropWhile_sign hback']
  simp

/-- A list is written between brackets. -/
theorem compact_arr (items : List Json) :
    ∃ inner, (Json.arr items).compact.toList = '[' :: (inner ++ [']']) := by
  rw [Json.compact, String.toList_ofList]
  cases items with
  | nil => exact ⟨[], rfl⟩
  | cons item items =>
    refine ⟨Json.writeAt Json.onOneLine 1 item ++ Json.writeItems Json.onOneLine 0 items, ?_⟩
    simp [Json.writeAt, Json.onOneLine]

/-! ## Titles -/

theorem mapM_texts {items : List Json} {titles : List JsonText} :
    items.mapM (fun | .str title => some title | _ => none) = some titles ↔
      items = titles.map Json.str := by
  refine ⟨fun h => ?_, ?_⟩
  · induction items generalizing titles with
    | nil =>
      cases h
      rfl
    | cons item items ih =>
      cases item <;> simp only [List.mapM_cons, Option.bind_eq_bind, Option.bind_none,
        Option.bind_some, reduceCtorEq] at h
      obtain ⟨others, hothers, h⟩ := Option.bind_eq_some_iff.mp h
      cases h
      rw [ih hothers, List.map_cons]
  · rintro rfl
    induction titles with
    | nil => rfl
    | cons title titles ih => simp [ih]

theorem titlesOf?_eq_some {value : Json} {titles : List JsonText} :
    titlesOf? value = some titles ↔
      value = .arr (titles.map .str) ∧ titles.length = titleCount := by
  unfold titlesOf?
  split
  · rename_i items
    rw [Json.arr.injEq, ← mapM_texts]
    split
    · rename_i hlength
      refine ⟨fun h => ⟨h, ?_⟩, And.left⟩
      rw [← beq_iff_eq.mp hlength, mapM_texts.mp h, List.length_map]
    · rename_i hlength
      refine ⟨(nomatch ·), fun ⟨h, hcount⟩ => absurd ?_ hlength⟩
      rw [beq_iff_eq, mapM_texts.mp h, List.length_map, hcount]
  · rename_i hother
    refine ⟨(nomatch ·), fun ⟨h, _⟩ => absurd h (hother _)⟩

/-- The list of titles as it is written. -/
def written (titles : List JsonText) : String := (Json.arr (titles.map .str)).compact

theorem plain_titles {titles : List JsonText} (h : ∀ title ∈ titles, Json.IsProper title) :
    ∀ item ∈ titles.map Json.str, Json.Plain item := by
  intro item hitem
  obtain ⟨title, htitle, rfl⟩ := List.mem_map.mp hitem
  exact .str (h title htitle)

theorem proper_titles {titles : List JsonText} (h : Json.Plain (.arr (titles.map .str))) :
    ∀ title ∈ titles, Json.IsProper title := by
  intro title htitle
  cases h with
  | arr hitems =>
    cases hitems (.str title) (List.mem_map_of_mem htitle) with
    | str hproper => exact hproper

theorem toList_written (titles : List JsonText) :
    (written titles).toList = Json.writeAt Json.onOneLine 0 (.arr (titles.map .str)) :=
  String.toList_ofList

variable {titles : List JsonText} {before after : String}

theorem bracketed?_written (hbefore : '[' ∉ before.toList) (hafter : ']' ∉ after.toList) :
    bracketed? (before ++ written titles ++ after).toList = some (written titles).toList := by
  obtain ⟨inner, hinner⟩ := compact_arr (titles.map .str)
  simp only [String.toList_append, written, hinner]
  rw [← bracketed?_eq hbefore inner hafter]
  simp

/-- A closing bracket behind the list is taken for its end. -/
theorem bracketed?_beyond (hbefore : '[' ∉ before.toList) (hafter : ']' ∈ after.toList) :
    ∃ more, ']' ∈ more ∧ bracketed? (before ++ written titles ++ after).toList =
      some ((written titles).toList ++ more) := by
  obtain ⟨inner, hinner⟩ := compact_arr (titles.map .str)
  -- the last closing bracket of all is one behind the list
  obtain ⟨back, front, hsplit, hback⟩ :=
    List.eq_append_cons_of_mem (List.mem_reverse.mpr hafter)
  have hlast : after.toList = front.reverse ++ ']' :: back.reverse := by
    rw [← List.reverse_reverse after.toList, hsplit]
    simp
  have hback' : ']' ∉ back.reverse := by rwa [List.mem_reverse]
  refine ⟨front.reverse ++ [']'], by simp, ?_⟩
  have hbracketed := bracketed?_eq hbefore (inner ++ ']' :: front.reverse) hback'
  simp only [String.toList_append, written, hinner, hlast]
  simpa using hbracketed

theorem extract_of_bracketed {text : String} (hcount : titles.length = titleCount)
    (hproper : ∀ title ∈ titles, Json.IsProper title)
    (h : bracketed? text.toList = some (written titles).toList) :
    extract text = .ok titles := by
  have hplain : Json.Plain (.arr (titles.map .str)) := .arr (plain_titles hproper)
  have hread := Json.readAll_written Json.onOneLine_isBlank hplain (List.forall_mem_nil _)
  rw [List.append_nil, ← toList_written] at hread
  have htitles : titlesOf? (.arr (titles.map .str)) = some titles :=
    titlesOf?_eq_some.mpr ⟨rfl, hcount⟩
  rw [extract, h]
  simp only [Json.read, String.toList_ofList, hread, Except.mapError, htitles]

theorem extract_of_extra {text : String} {more : List Char} (hmore : ']' ∈ more)
    (hproper : ∀ title ∈ titles, Json.IsProper title)
    (h : bracketed? text.toList = some ((written titles).toList ++ more)) :
    ∃ line column offset, extract text =
      .error (.service (.notParsed (.malformed .extraData line column offset))) := by
  obtain ⟨offset, hread⟩ := Json.readAll_extra Json.onOneLine_isBlank (plain_titles hproper) hmore
    (by decide)
  rw [← toList_written] at hread
  rw [extract, h]
  simp only [Json.read, String.toList_ofList, hread, Except.mapError, Json.Stop.inText]
  exact ⟨_, _, _, rfl⟩

/-- The titles that are found are texts that JSON can tell apart. -/
theorem isProper_extract {text : String} (h : extract text = .ok titles) :
    ∀ title ∈ titles, Json.IsProper title := by
  unfold extract at h
  split at h
  · cases h
  split at h
  · cases h
  · cases h
  rename_i value hread
  split at h
  · rename_i found hfound
    cases h
    obtain ⟨rfl, -⟩ := titlesOf?_eq_some.mp hfound
    exact proper_titles (Json.plain_read hread)
  · cases h

/-- **Titles are recovered from an answer that says more, unless a closing bracket follows them.**
What stands in front of them may hold anything but an opening bracket. They come back just as
they were if they are texts that JSON can tell apart, as all strings of characters are, and no
closing bracket follows. One that follows is taken for their own, and the answer cannot be
read. -/
theorem extract_written (hcount : titles.length = titleCount) (hbefore : '[' ∉ before.toList) :
    (extract (before ++ written titles ++ after) = .ok titles ↔
      ']' ∉ after.toList ∧ ∀ title ∈ titles, Json.IsProper title) ∧
    (']' ∈ after.toList → (∀ title ∈ titles, Json.IsProper title) →
      ∃ line column offset, extract (before ++ written titles ++ after) =
        .error (.service (.notParsed (.malformed .extraData line column offset)))) := by
  have hbeyond (hafter : ']' ∈ after.toList) (hproper : ∀ title ∈ titles, Json.IsProper title) :
      ∃ line column offset, extract (before ++ written titles ++ after) =
        .error (.service (.notParsed (.malformed .extraData line column offset))) := by
    obtain ⟨more, hmore, hbracketed⟩ := bracketed?_beyond hbefore hafter
    exact extract_of_extra hmore hproper hbracketed
  refine ⟨⟨fun h => ⟨fun hafter => ?_, isProper_extract h⟩, fun ⟨hafter, hproper⟩ => ?_⟩, hbeyond⟩
  · obtain ⟨line, column, offset, herror⟩ := hbeyond hafter (isProper_extract h)
    rw [herror] at h
    cases h
  · exact extract_of_bracketed hcount hproper (bracketed?_written hbefore hafter)

/-- Titles with brackets, quotes, backslashes and characters past ASCII, in a fence. -/
theorem extract_written_fenced :
    let titles : List JsonText :=
      ["feat: Add [api] keys", "fix: Quote \"]\"", "doc: Escape \\n", "test: Cover 😀 in é"]
    let before := "Sure! Here you go:\n```json\n"
    let after := "\n```"
    titles.length = titleCount ∧ '[' ∉ before.toList ∧
      extract (before ++ written titles ++ after) = .ok titles := by
  intro titles before after
  have hcount : titles.length = titleCount := rfl
  have hbefore : '[' ∉ before.toList := by decide
  have hproper : ∀ title ∈ titles, Json.IsProper title := by
    simp [titles, Json.isProper_whole]
  exact ⟨hcount, hbefore,
    (extract_written hcount hbefore).1.mpr ⟨by decide, hproper⟩⟩

/-- A closing bracket in what is said behind the titles hides them. -/
theorem extract_behind_bracket :
    let titles : List JsonText := ["a", "b", "c", "d"]
    let before := "Here you go: "
    let after := "\n\nTell me if [scope] is missing."
    titles.length = titleCount ∧ '[' ∉ before.toList ∧
      extract (before ++ written titles ++ after) ≠ .ok titles := by
  intro titles before after
  have hnone : (extract (before ++ written titles ++ after)).toOption = none := by decide +kernel
  refine ⟨rfl, by decide, fun h => ?_⟩
  rw [h] at hnone
  cases hnone

end CommitStyle.Suggestion
