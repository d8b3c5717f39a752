import ImageBuild.Proofs.Json.Numbers
import ImageBuild.Proofs.Json.Strings

/-!
# Skipping values

Every value is passed over up to its end, however deep it is nested (`skipValue_eq_ok`).
-/

namespace ImageBuild.Json

/-! ## Values without parts -/

theorem skipHead_blanks {before : List Char} (h : Blanks before) (cs : List Char) :
    skipHead (before ++ cs) = skipHead cs := by
  rw [skipHead, skipHead, skipBlanks_append h]

theorem skipHead_number {digits rest : List Char} (h : IsNumber digits) (hrest : Delimits rest) :
    skipHead (digits ++ rest) = .ok (.whole rest) := by
  rcases h with hmagnitude | ⟨magnitude, hmagnitude, rfl⟩
  · have hskip := skipUnsigned_eq_ok hmagnitude hrest
    obtain ⟨ds, fraction, exponent, hdigits, -, -, rfl⟩ := hmagnitude
    obtain ⟨c, cs, rfl, hc⟩ := hdigits.head
    have hne : ∀ d : Char, d.isDigit = false → c ≠ d := by
      rintro d hd rfl
      rw [hc] at hd
      cases hd
    simp only [List.cons_append, List.append_assoc] at hskip ⊢
    rw [skipHead, skipBlanks_cons (isJsonBlank_of_not_delimiter (isDelimiter_of_isDigit hc))]
    simp [hne 'n' rfl, hne 't' rfl, hne 'f' rfl, hne '-' rfl, hc, hskip, Functor.map, Except.map]
  · have hskip := skipUnsigned_eq_ok hmagnitude hrest
    simp [skipHead, skipBlanks, isJsonBlank, hskip, Functor.map, Except.map]

theorem skipHead_text {s : Option String} {cs : List Char} (h : StringWritten s cs)
    (rest : List Char) : skipHead (cs ++ rest) = .ok (.whole rest) := by
  obtain ⟨body, rfl, hbody⟩ := h.body
  simp [skipHead, skipBlanks, isJsonBlank, (hbody rest).2, Functor.map, Except.map]

theorem skipKey_eq_ok {before key gap : List Char} {name : Option String} (hbefore : Blanks before)
    (hkey : StringWritten name key) (hgap : Blanks gap) (rest : List Char) :
    skipKey (before ++ (key ++ (gap ++ ':' :: rest))) = .ok rest := by
  obtain ⟨body, rfl, hbody⟩ := hkey.body
  rw [skipKey, skipBlanks_append hbefore, List.cons_append, skipBlanks_cons rfl]
  simp [(hbody (gap ++ ':' :: rest)).2, skipBlanks_append hgap, skipBlanks_cons (c := ':') rfl,
    bind, Except.bind]

/-! ## Brackets -/

/-- Where the reader stands in front of an item or a member. -/
def stageOf (first : Bool) : Stage := if first then .opened else .behind

theorem skipFrom_close {before : List Char} (h : Blanks before) (first : Bool) (fuel : Nat)
    (bracket : Bracket) (outer : List Bracket) (rest : List Char) :
    skipFrom (fuel + 1) (stageOf first) (bracket :: outer) (before ++ bracket.close :: rest) =
      skipFrom fuel .behind outer rest := by
  have hclose : isJsonBlank bracket.close = false := by cases bracket <;> rfl
  have hcomma : bracket.close ≠ ',' := by cases bracket <;> decide
  cases first with
  | true => simp [stageOf, skipFrom, skipBlanks_append h, skipBlanks_cons hclose]
  | false => simp [stageOf, skipFrom, skipBlanks_append h, skipBlanks_cons hclose, hcomma]

/-- In front of an item or a member, the reader passes over the comma, if there is one. -/
theorem skipFrom_enter {before : List Char} {first : Bool} (h : Separates first before) (fuel : Nat)
    (bracket : Bracket) (outer : List Bracket) {c : Char} (hc : isDelimiter c = false)
    (cs : List Char) : ∃ gap, Blanks gap ∧ ∀ rest, enterItem bracket (gap ++ c :: cs) = .ok rest →
      skipFrom (fuel + 1) (stageOf first) (bracket :: outer) (before ++ c :: cs) =
        skipFrom fuel .before (bracket :: outer) rest := by
  have hblank := isJsonBlank_of_not_delimiter hc
  cases h with
  | first hbefore =>
    have hclose : c ≠ bracket.close := by
      rintro rfl
      cases bracket <;> cases hc
    refine ⟨[], nofun, fun rest henter => ?_⟩
    rw [List.nil_append] at henter
    simp [stageOf, skipFrom, skipBlanks_append hbefore, skipBlanks_cons hblank, hclose, henter]
  | @comma before after hbefore hafter =>
    refine ⟨after, hafter, fun rest henter => ?_⟩
    simp [stageOf, skipFrom, skipBlanks_append hbefore, skipBlanks_cons (c := ',') rfl, henter]

theorem skipFrom_member {before key gap : List Char} {first : Bool} {name : Option String}
    (h : Separates first before) (hkey : StringWritten name key) (hgap : Blanks gap) (fuel : Nat)
    (outer : List Bracket) (rest : List Char) :
    skipFrom (fuel + 1) (stageOf first) (.object :: outer)
        (before ++ (key ++ (gap ++ ':' :: rest))) =
      skipFrom fuel .before (.object :: outer) rest := by
  have hskip := fun before (hbefore : Blanks before) => skipKey_eq_ok hbefore hkey hgap rest
  obtain ⟨body, rfl, -⟩ := hkey.body
  obtain ⟨blanks, hblanks, henter⟩ :=
    skipFrom_enter h fuel .object outer (c := '"') rfl (body ++ (gap ++ ':' :: rest))
  exact henter _ (hskip blanks hblanks)

/-! ## Whole values -/

/-- A part is passed over in at most three steps for each of its characters. -/
def Part.Passes (cs : List Char) : Part → Prop
  | .value _ => ∃ n, n + 2 ≤ 3 * cs.length ∧ ∀ fuel stack before rest, Blanks before →
      Delimits rest → skipFrom (fuel + n) .before stack (before ++ (cs ++ rest)) =
        skipFrom fuel .behind stack rest
  | .items first _ => ∃ n, n ≤ 3 * cs.length ∧ ∀ fuel outer rest,
      skipFrom (fuel + n) (stageOf first) (.list :: outer) (cs ++ rest) =
        skipFrom fuel .behind outer rest
  | .members first _ => ∃ n, n ≤ 3 * cs.length ∧ ∀ fuel outer rest,
      skipFrom (fuel + n) (stageOf first) (.object :: outer) (cs ++ rest) =
        skipFrom fuel .behind outer rest

theorem passes_of_whole {v : Value} {cs : List Char} (hcs : cs ≠ [])
    (h : ∀ rest, Delimits rest → skipHead (cs ++ rest) = .ok (.whole rest)) :
    (Part.value v).Passes cs := by
  refine ⟨1, ?_, fun fuel stack before rest hbefore hrest => ?_⟩
  · have hpos := List.length_pos_iff.2 hcs
    omega
  · rw [skipFrom, skipHead_blanks hbefore, h rest hrest]

/-- An opening bracket and what follows it. -/
theorem passes_of_opened {v : Value} {c : Char} {cs : List Char} (bracket : Bracket) {n : Nat}
    (hopen : ∀ rest, skipHead (c :: rest) = .ok (.opened bracket rest))
    (hn : n ≤ 3 * cs.length)
    (h : ∀ fuel outer rest, skipFrom (fuel + n) (stageOf true) (bracket :: outer) (cs ++ rest) =
      skipFrom fuel .behind outer rest) :
    (Part.value v).Passes (c :: cs) := by
  refine ⟨n + 1, ?_, fun fuel stack before rest hbefore _ => ?_⟩
  · rw [List.length_cons]
    omega
  · rw [← Nat.add_assoc, skipFrom, skipHead_blanks hbefore, List.cons_append, hopen]
    exact h fuel stack rest

theorem Part.Written.passes {part : Part} {cs : List Char} (h : Written part cs) :
    part.Passes cs := by
  induction h with
  | null => exact passes_of_whole nofun fun _ _ => rfl
  | true => exact passes_of_whole nofun fun _ _ => rfl
  | false => exact passes_of_whole nofun fun _ _ => rfl
  | number hnumber =>
    obtain ⟨c, cs, rfl, -⟩ := hnumber.head
    exact passes_of_whole nofun fun _ hrest => skipHead_number hnumber hrest
  | text htext =>
    obtain ⟨body, rfl, -⟩ := htext.body
    exact passes_of_whole nofun fun rest _ => skipHead_text htext rest
  | list _ ih =>
    obtain ⟨n, hn, hpass⟩ := ih
    exact passes_of_opened .list (fun _ => rfl) hn hpass
  | object _ ih =>
    obtain ⟨n, hn, hpass⟩ := ih
    exact passes_of_opened .object (fun _ => rfl) hn hpass
  | @endItems first before hbefore =>
    refine ⟨1, by rw [List.length_append, List.length_singleton]; omega, fun fuel outer rest => ?_⟩
    rw [List.append_assoc]
    exact skipFrom_close hbefore first fuel .list outer rest
  | @endMembers first before hbefore =>
    refine ⟨1, by rw [List.length_append, List.length_singleton]; omega, fun fuel outer rest => ?_⟩
    rw [List.append_assoc]
    exact skipFrom_close hbefore first fuel .object outer rest
  | @item first v vs before cs ds hbefore hvalue hitems ihvalue ihitems =>
    obtain ⟨m, hm, hpassValue⟩ := ihvalue
    obtain ⟨n, hn, hpassItems⟩ := ihitems
    -- one step to enter the item, then those of its value and of the items behind it
    refine ⟨n + m + 1, ?_, fun fuel outer rest => ?_⟩
    · simp only [List.length_append]
      omega
    · obtain ⟨c, cs', rfl, hc⟩ := hvalue.head
      obtain ⟨gap, hgap, henter⟩ := skipFrom_enter hbefore (fuel + (n + m)) .list outer
        hc.not_delimiter (cs' ++ (ds ++ rest))
      have hdelimits : Delimits (ds ++ rest) := hitems.delimits rfl rest
      simp only [List.append_assoc, List.cons_append]
      rw [← Nat.add_assoc, henter _ rfl, ← Nat.add_assoc, ← List.cons_append,
        hpassValue (fuel + n) _ gap (ds ++ rest) hgap hdelimits]
      exact hpassItems fuel outer rest
  | @member first name v ms before key gap after cs ds hbefore hkey hgap hafter hvalue hmembers
      ihvalue ihmembers =>
    obtain ⟨m, hm, hpassValue⟩ := ihvalue
    obtain ⟨n, hn, hpassMembers⟩ := ihmembers
    refine ⟨n + m + 1, ?_, fun fuel outer rest => ?_⟩
    · simp only [List.length_append, List.length_cons]
      omega
    · have hmember := skipFrom_member hbefore hkey hgap (fuel + (n + m)) outer
        (after ++ (cs ++ (ds ++ rest)))
      have hdelimits : Delimits (ds ++ rest) := hmembers.delimits rfl rest
      simp only [List.append_assoc, List.cons_append] at hmember ⊢
      rw [← Nat.add_assoc, hmember, ← Nat.add_assoc,
        hpassValue (fuel + n) _ after (ds ++ rest) hafter hdelimits]
      exact hpassMembers fuel outer rest

/-- A value is passed over up to its end. -/
theorem skipValue_eq_ok {v : Value} {before cs rest : List Char} (hbefore : Blanks before)
    (h : Part.Written (.value v) cs) (hrest : Delimits rest) :
    skipValue (before ++ (cs ++ rest)) = .ok rest := by
  obtain ⟨n, hn, hpass⟩ := h.passes
  have hfuel : 3 * (before ++ (cs ++ rest)).length + 3 =
      3 * before.length + 3 * rest.length + (3 * cs.length - n) + 2 + 1 + n := by
    simp only [List.length_append]
    omega
  rw [skipValue, hfuel, hpass _ _ _ _ hbefore hrest]
  rfl

end ImageBuild.Json
