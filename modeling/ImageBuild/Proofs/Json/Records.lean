import Mathlib.Data.List.Nodup
import ImageBuild.Proofs.Json.Readers

/-!
# Reading structures

A structure is accepted as an object or a list exactly if each of its fields is given once, or left
out where that is allowed, and it is read as the structure that holds these values and the defaults
(`reads_record`).
-/

namespace ImageBuild.Json

variable {α : Type}

/-! ## Fields -/

/-- A field of a structure: how its value is read and kept, and what it means. -/
structure Entry (α : Type) where
  Content : Type
  name : String
  required : Bool
  read : List Char → Reading Content
  Means : Value → Content → Prop
  get : α → Content
  keep : α → Content → α
  get_keep : ∀ x y, get (keep x y) = y
  reads : Reads read Means

def Entry.field (e : Entry α) : RecordField α :=
  .of e.name (if e.required then .required else .defaulted) e.read e.keep

/-- The fields have different names, do not touch each other and make up the structure. -/
structure Independent (entries : List (Entry α)) : Prop where
  names : (entries.map (·.name)).Nodup
  get_keep : ∀ e ∈ entries, ∀ f ∈ entries, e.name ≠ f.name →
    ∀ x y, e.get (f.keep x y) = e.get x
  ext : ∀ x x', (∀ e ∈ entries, e.get x = e.get x') → x = x'

theorem Independent.eq_of_name {entries : List (Entry α)} (h : Independent entries) {e f : Entry α}
    (he : e ∈ entries) (hf : f ∈ entries) (hname : e.name = f.name) : e = f :=
  List.inj_on_of_nodup_map h.names he hf hname

/-- The values that some members give to a name. -/
def valuesOf (name : String) (ms : List (Option String × Value)) : List Value :=
  ms.filterMap fun (n, v) => if n = some name then some v else none

/-- How some members fill a draft, one after the other. -/
inductive Fills (entries : List (Entry α)) :
    List (Option String × Value) → Draft α → Draft α → Prop
  | done {draft : Draft α} : Fills entries [] draft draft
  | unknown {name : String} {v : Value} {ms : List (Option String × Value)}
      {draft draft' : Draft α} : (∀ e ∈ entries, e.name ≠ name) → Fills entries ms draft draft' →
        Fills entries ((some name, v) :: ms) draft draft'
  | known {e : Entry α} {v : Value} {y : e.Content} {ms : List (Option String × Value)}
      {draft draft' : Draft α} : e ∈ entries → e.name ∉ draft.seen → e.Means v y →
        Fills entries ms ⟨e.keep draft.value y, e.name :: draft.seen⟩ draft' →
          Fills entries ((some e.name, v) :: ms) draft draft'

/-- A member with the name of a field is read into that field. -/
theorem Fills.of_cons {entries : List (Entry α)} (hentries : Independent entries) {name : String}
    {v : Value} {ms : List (Option String × Value)} {draft draft' : Draft α}
    (h : Fills entries ((some name, v) :: ms) draft draft') {e : Entry α} (he : e ∈ entries)
    (hname : e.name = name) :
    name ∉ draft.seen ∧ ∃ y, e.Means v y ∧
      Fills entries ms ⟨e.keep draft.value y, e.name :: draft.seen⟩ draft' := by
  cases h with
  | unknown hunknown => exact absurd hname (hunknown e he)
  | @known e' _ y _ _ _ he' hseen hy hfills =>
    obtain rfl := hentries.eq_of_name he he' hname
    exact ⟨hseen, y, hy, hfills⟩

theorem Draft.read_field_eq_ok_iff (e : Entry α) {v : Value} {before cs rest : List Char}
    (hbefore : Blanks before) (h : Part.Written (.value v) cs) (hrest : Delimits rest)
    {draft draft' : Draft α} {rest' : List Char} :
    draft.read e.field (before ++ (cs ++ rest)) = .ok (draft', rest') ↔
      (∃ y, e.Means v y ∧ draft' = ⟨e.keep draft.value y, e.name :: draft.seen⟩) ∧
        rest' = rest := by
  have hread : ∀ y behind, e.read (before ++ (cs ++ rest)) = .ok (y, behind) ↔
      e.Means v y ∧ behind = rest := by
    intro y behind
    rw [e.reads.blanks before _ hbefore]
    exact e.reads.eq_ok_iff v cs h rest hrest y behind
  unfold Draft.read Entry.field RecordField.of
  dsimp only
  cases hvalue : e.read (before ++ (cs ++ rest)) with
  | error f =>
    refine iff_of_false nofun ?_
    rintro ⟨⟨y, hy, -⟩, -⟩
    rw [(hread y rest).2 ⟨hy, rfl⟩] at hvalue
    cases hvalue
  | ok read =>
    obtain ⟨y, behind⟩ := read
    obtain ⟨hy, rfl⟩ := (hread y behind).1 hvalue
    simp only [Except.ok.injEq, Prod.mk.injEq]
    constructor
    · rintro ⟨rfl, rfl⟩
      exact ⟨⟨y, hy, rfl⟩, rfl⟩
    · rintro ⟨⟨y', hy', rfl⟩, rfl⟩
      have hsame := hvalue.symm.trans ((hread y' _).2 ⟨hy', rfl⟩)
      obtain ⟨rfl, -⟩ := Prod.mk.inj (Except.ok.inj hsame)
      exact ⟨rfl, rfl⟩

/-! ## Members of an object -/

theorem nextKey_end {before : List Char} (h : Blanks before) (first : Bool) (rest : List Char) :
    nextKey first (before ++ '\x7d' :: rest) = .ok (none, '\x7d' :: rest) := by
  rw [nextKey, skipBlanks_append h, skipBlanks_cons rfl]
  rfl

theorem nextKey_quote {before : List Char} {first : Bool} (h : Separates first before)
    (cs : List Char) : nextKey first (before ++ '"' :: cs) =
      (readBody cs).map fun read => (some read.1, read.2) := by
  cases h with
  | first hbefore =>
    rw [nextKey, skipBlanks_append hbefore, skipBlanks_cons rfl]
    dsimp only
    rw [if_neg (by decide), if_pos rfl, if_pos rfl]
    cases readBody cs <;> rfl
  | comma hbefore hafter =>
    rw [nextKey, List.append_assoc, skipBlanks_append hbefore, List.cons_append,
      skipBlanks_cons rfl]
    dsimp only
    rw [if_neg (by decide), if_neg (by decide), if_pos rfl, skipBlanks_append hafter,
      skipBlanks_cons rfl]
    dsimp only
    rw [if_pos rfl]
    cases readBody cs <;> rfl

/-- The name of a member is read as its text, and refused if it has none. -/
theorem toOption_nextKey {before key : List Char} {first : Bool} {name : Option String}
    (h : Separates first before) (hkey : StringWritten name key) (rest : List Char) :
    (nextKey first (before ++ (key ++ rest))).toOption = name.map (some ·, rest) := by
  obtain ⟨body, rfl, hbody⟩ := hkey.body
  rw [List.cons_append, nextKey_quote h, toOption_map, (hbody rest).1]
  cases name <;> rfl

theorem readColon_eq_ok {gap : List Char} (h : Blanks gap) (rest : List Char) :
    readColon (gap ++ ':' :: rest) = .ok rest := by
  rw [readColon, skipBlanks_append h, skipBlanks_cons rfl]
  rfl

theorem length_lt_of_written_members {first : Bool} {ms : List (Option String × Value)}
    {cs : List Char} (h : Part.Written (.members first ms) cs) : ms.length < cs.length := by
  induction ms generalizing first cs with
  | nil =>
    cases h
    simp
  | cons m ms ih =>
    cases h with
    | member _ _ _ _ _ hmembers =>
      have hlt := ih hmembers
      simp only [List.length_append, List.length_cons]
      omega

theorem exists_error_of_toOption {β : Type} {reading : Except Fault β}
    (h : reading.toOption = none) : ∃ f, reading = .error f := by
  cases reading with
  | error f => exact ⟨f, rfl⟩
  | ok => cases h

theorem find?_field_eq_none {entries : List (Entry α)} {name : String}
    (h : entries.find? (fun e => e.name == name) = none) :
    (entries.map Entry.field).find? (fun field => field.name == name) = none := by
  rw [List.find?_map]
  exact congrArg (Option.map Entry.field) h

theorem find?_field_eq_some {entries : List (Entry α)} {name : String} {e : Entry α}
    (h : entries.find? (fun e => e.name == name) = some e) :
    (entries.map Entry.field).find? (fun field => field.name == name) = some e.field := by
  rw [List.find?_map]
  exact congrArg (Option.map Entry.field) h

section Members

variable {fields : List (RecordField α)} {field : RecordField α} {fuel : Nat} {first : Bool}
  {name : String} {draft draft' : Draft α} {cs rest behind rest' : List Char}

theorem readMembers_unknown (hnext : nextKey first cs = .ok (some name, rest))
    (hfind : fields.find? (fun field => field.name == name) = none)
    (hcolon : readColon rest = .ok behind) (hskip : skipValue behind = .ok rest') :
    readMembers fields (fuel + 1) first draft cs = readMembers fields fuel false draft rest' := by
  simp only [readMembers, hnext, hfind, hcolon, hskip]

theorem readMembers_repeated (hnext : nextKey first cs = .ok (some name, rest))
    (hfind : fields.find? (fun field => field.name == name) = some field)
    (hseen : name ∈ draft.seen) :
    readMembers fields (fuel + 1) first draft cs =
      faultAt (.duplicateField name) (leaveObject rest) := by
  simp only [readMembers, hnext, hfind, List.contains_iff_mem.2 hseen, if_true]

theorem readMembers_known (hnext : nextKey first cs = .ok (some name, rest))
    (hfind : fields.find? (fun field => field.name == name) = some field)
    (hseen : name ∉ draft.seen) (hcolon : readColon rest = .ok behind) :
    readMembers fields (fuel + 1) first draft cs = .ok (draft', rest') ↔
      ∃ draft₁ behind', draft.read field behind = .ok (draft₁, behind') ∧
        readMembers fields fuel false draft₁ behind' = .ok (draft', rest') := by
  have hcontains : draft.seen.contains name = false := by
    rw [Bool.eq_false_iff, ne_eq, List.contains_iff_mem]
    exact hseen
  simp only [readMembers, hnext, hfind, hcontains, Bool.false_eq_true, if_false, hcolon]
  cases draft.read field behind with
  | error f => simp
  | ok read =>
    obtain ⟨draft₁, behind'⟩ := read
    simp

end Members

/-- The members of an object fill the draft. -/
theorem readMembers_eq_ok_iff {entries : List (Entry α)} (hentries : Independent entries)
    {first : Bool} {ms : List (Option String × Value)} {cs : List Char}
    (h : Part.Written (.members first ms) cs) {fuel : Nat} (hfuel : ms.length < fuel)
    {draft draft' : Draft α} {rest rest' : List Char} :
    readMembers (entries.map Entry.field) fuel first draft (cs ++ rest) = .ok (draft', rest') ↔
      Fills entries ms draft draft' ∧ rest' = '\x7d' :: rest := by
  induction ms generalizing first cs fuel draft with
  | nil =>
    obtain ⟨fuel, rfl⟩ := Nat.exists_eq_succ_of_ne_zero (Nat.ne_of_gt hfuel)
    cases h with
    | endMembers hbefore =>
      rw [List.append_assoc, List.singleton_append, readMembers, nextKey_end hbefore]
      simp only [Except.ok.injEq, Prod.mk.injEq]
      constructor
      · rintro ⟨rfl, rfl⟩
        exact ⟨.done, rfl⟩
      · rintro ⟨hfills, rfl⟩
        cases hfills
        exact ⟨rfl, rfl⟩
  | cons m ms ih =>
    obtain ⟨fuel, rfl⟩ := Nat.exists_eq_succ_of_ne_zero (Nat.ne_of_gt (Nat.zero_lt_of_lt hfuel))
    have hlt : ms.length < fuel := Nat.lt_of_succ_lt_succ hfuel
    cases h with
    | @member _ name v _ before key gap after front tail hbefore hkey hgap hafter hvalue hmembers =>
      have hnext := toOption_nextKey hbefore hkey
        (gap ++ ':' :: (after ++ (front ++ (tail ++ rest))))
      simp only [List.append_assoc, List.cons_append]
      cases name with
      | none =>
        -- a name that is no text is refused, also where the member would be passed over
        obtain ⟨f, herror⟩ := exists_error_of_toOption hnext
        refine iff_of_false ?_ ?_
        · rw [readMembers, herror]
          nofun
        · rintro ⟨hfills, -⟩
          cases hfills
      | some name =>
        replace hnext := eq_ok_iff_toOption.2 hnext
        have hcolon := readColon_eq_ok hgap (after ++ (front ++ (tail ++ rest)))
        have hdelimits := hmembers.delimits rfl rest
        cases hfind : entries.find? (fun e => e.name == name) with
        | none =>
          have hunknown : ∀ e ∈ entries, e.name ≠ name := by simpa using hfind
          rw [readMembers_unknown hnext (find?_field_eq_none hfind) hcolon
            (skipValue_eq_ok hafter hvalue hdelimits), ih hmembers hlt]
          refine and_congr_left fun _ => ⟨fun hfills => .unknown hunknown hfills, fun hfills => ?_⟩
          cases hfills with
          | unknown _ hfills => exact hfills
          | known he => exact absurd rfl (hunknown _ he)
        | some e =>
          have hfield := find?_field_eq_some hfind
          have he := List.mem_of_find?_eq_some hfind
          have hname : e.name = name := by simpa using List.find?_some hfind
          by_cases hseen : name ∈ draft.seen
          · rw [readMembers_repeated hnext hfield hseen]
            exact iff_of_false nofun fun hfills => (hfills.1.of_cons hentries he hname).1 hseen
          · rw [readMembers_known hnext hfield hseen hcolon]
            simp only [Draft.read_field_eq_ok_iff e hafter hvalue hdelimits]
            constructor
            · rintro ⟨_, _, ⟨⟨y, hy, rfl⟩, rfl⟩, hread⟩
              obtain ⟨hfills, rfl⟩ := (ih hmembers hlt).1 hread
              subst hname
              exact ⟨.known he hseen hy hfills, rfl⟩
            · rintro ⟨hfills, rfl⟩
              obtain ⟨-, y, hy, hfills⟩ := hfills.of_cons hentries he hname
              exact ⟨_, _, ⟨⟨y, hy, rfl⟩, rfl⟩, (ih hmembers hlt).2 ⟨hfills, rfl⟩⟩

/-! ## Items of a list -/

/-- The members of a structure: those of an object, or the items of a list, named in the order in
which the fields are declared. -/
inductive Value.Members (names : List String) : Value → List (Option String × Value) → Prop
  | object {ms : List (Option String × Value)} : Members names (.object ms) ms
  | list {vs : List Value} : vs.length ≤ names.length →
      Members names (.list vs) ((names.map some).zip vs)

theorem Fills.mem_seen {entries : List (Entry α)} {ms : List (Option String × Value)}
    {draft draft' : Draft α} (h : Fills entries ms draft draft') {name : String}
    (hname : name ∈ draft.seen) : name ∈ draft'.seen := by
  induction h with
  | done => exact hname
  | unknown _ _ ih => exact ih hname
  | known _ _ _ _ ih => exact ih (List.mem_cons_of_mem _ hname)

theorem endList_item_ne_ok {before : List Char} {first : Bool} (h : Separates first before)
    {c : Char} (hc : isDelimiter c = false) (cs rest : List Char) :
    endList (before ++ c :: cs) ≠ .ok rest := by
  have hblank := isJsonBlank_of_not_delimiter hc
  cases h with
  | first hbefore =>
    have hclose : c ≠ ']' := by rintro rfl; cases hc
    have hcomma : c ≠ ',' := by rintro rfl; cases hc
    rw [endList, skipBlanks_append hbefore, skipBlanks_cons hblank]
    simp [hclose, hcomma, faultAfter]
  | comma hbefore hafter =>
    rw [endList, List.append_assoc, skipBlanks_append hbefore, List.cons_append,
      skipBlanks_cons rfl]
    dsimp only
    rw [if_neg (by decide), if_pos rfl, skipBlanks_append hafter, skipBlanks_cons hblank]
    dsimp only
    split <;> simp [faultAfter]

theorem Entry.field_presence_eq_defaulted {e : Entry α} :
    e.field.presence = .defaulted ↔ e.required = false := by
  cases h : e.required <;> simp [Entry.field, RecordField.of, h]

/-- A list is over if and only if it has no items left. -/
theorem endList_items_eq_ok_iff {first : Bool} {vs : List Value} {cs rest rest' : List Char}
    (h : Part.Written (.items first vs) cs) :
    endList (cs ++ rest) = .ok rest' ↔ vs = [] ∧ rest' = rest := by
  cases h with
  | endItems hbefore =>
    rw [List.append_assoc, List.singleton_append, endList_end hbefore, Except.ok.injEq, eq_comm]
    simp
  | item hbefore hvalue =>
    obtain ⟨c, front, rfl, hc⟩ := hvalue.head
    simp only [List.append_assoc, List.cons_append]
    exact iff_of_false (endList_item_ne_ok hbefore hc.not_delimiter _ _) nofun

/-- When a list is over its field is left out, which a required one does not allow. -/
theorem readFields_over {expected : String} {e : Entry α} {fields : List (RecordField α)}
    {index : Nat} {draft draft' : Draft α} {cs rest behind : List Char}
    (hnext : nextItem (index == 0) cs = .ok (false, rest)) :
    readFields expected (e.field :: fields) index draft cs = .ok (draft', behind) ↔
      e.required = false ∧
        readFields expected fields (index + 1) draft rest = .ok (draft', behind) := by
  rw [readFields, hnext]
  dsimp only
  cases hrequired : e.required with
  | false => rw [if_pos (Entry.field_presence_eq_defaulted.2 hrequired), eq_self, true_and]
  | true =>
    have hpresence : e.field.presence ≠ .defaulted := by
      simp [Entry.field_presence_eq_defaulted, hrequired]
    rw [if_neg hpresence]
    refine iff_of_false ?_ nofun
    split <;> nofun

/-- An item of a list is read for its field. -/
theorem readFields_item {expected : String} {field : RecordField α} {fields : List (RecordField α)}
    {index : Nat} {draft draft' : Draft α} {cs rest behind : List Char}
    (hnext : nextItem (index == 0) cs = .ok (true, rest)) :
    readFields expected (field :: fields) index draft cs = .ok (draft', behind) ↔
      ∃ draft₁ rest₁, draft.read field rest = .ok (draft₁, rest₁) ∧
        readFields expected fields (index + 1) draft₁ rest₁ = .ok (draft', behind) := by
  rw [readFields, hnext]
  dsimp only
  cases draft.read field rest with
  | error f => simp
  | ok read =>
    obtain ⟨draft₁, rest₁⟩ := read
    simp

/-- The items of a list fill the draft in the order of the fields, and no required one is left over
at the end. -/
theorem readFields_eq_ok_iff {entries : List (Entry α)} (hentries : Independent entries)
    {expected : String} {rest rest' : List Char} {draft' : Draft α} (es : List (Entry α))
    (hsub : ∀ e ∈ es, e ∈ entries)
    (hnames : (es.map (·.name)).Nodup) {index : Nat} {first : Bool} (hfirst : (index == 0) = first)
    {vs : List Value} {cs : List Char} (h : Part.Written (.items first vs) cs) {draft : Draft α}
    (hfresh : ∀ e ∈ es, e.name ∉ draft.seen) :
    (∃ behind, readFields expected (es.map Entry.field) index draft (cs ++ rest) =
        .ok (draft', behind) ∧ endList behind = .ok rest') ↔
      vs.length ≤ es.length ∧
        Fills entries (((es.map (·.name)).map some).zip vs) draft draft' ∧
          (∀ e ∈ es, e.required = true → e.name ∈ draft'.seen) ∧ rest' = rest := by
  -- the fields that are left are fresh, so that no item repeats one
  induction es generalizing index first vs cs draft with
  | nil =>
    simp only [List.map_nil, readFields, Except.ok.injEq, Prod.mk.injEq]
    constructor
    · rintro ⟨_, ⟨rfl, rfl⟩, hend⟩
      obtain ⟨rfl, rfl⟩ := (endList_items_eq_ok_iff h).1 hend
      exact ⟨Nat.le_refl 0, .done, nofun, rfl⟩
    · rintro ⟨hlength, hfills, -, rfl⟩
      obtain rfl := List.eq_nil_of_length_eq_zero (Nat.le_zero.1 hlength)
      cases hfills
      exact ⟨_, ⟨rfl, rfl⟩, (endList_items_eq_ok_iff h).2 ⟨rfl, rfl⟩⟩
  | cons e es ih =>
    obtain ⟨hname, hnames⟩ := List.nodup_cons.1 hnames
    have hsub' : ∀ e ∈ es, e ∈ entries := fun f hf => hsub f (List.mem_cons_of_mem _ hf)
    have hfresh' : ∀ f ∈ es, f.name ∉ draft.seen := fun f hf => hfresh f (List.mem_cons_of_mem _ hf)
    have hlater : (index + 1 == 0) = false := rfl
    subst hfirst
    rw [List.map_cons]
    cases h with
    | endItems hbefore =>
      have hnext := nextItem_end hbefore (index == 0) rest
      have hrest := ih hsub' hnames hlater (.endItems blanks_nil) hfresh'
      simp only [List.zip_nil_right, List.length_nil, Nat.zero_le, true_and, List.nil_append,
        List.singleton_append, List.append_assoc, List.forall_mem_cons] at hrest ⊢
      simp only [readFields_over hnext, and_assoc, exists_and_left, hrest]
      constructor
      · rintro ⟨hrequired, hfills, hseen, rfl⟩
        refine ⟨hfills, fun h => ?_, hseen, rfl⟩
        rw [hrequired] at h
        cases h
      · rintro ⟨hfills, hseen, hrequired, rfl⟩
        refine ⟨?_, hfills, hrequired, rfl⟩
        by_contra htrue
        cases hfills
        exact hfresh e List.mem_cons_self (hseen (by simpa using htrue))
    | @item _ v vs before front tail hbefore hvalue hitems =>
      have hnext : nextItem (index == 0) (before ++ (front ++ tail) ++ rest) =
          .ok (true, front ++ (tail ++ rest)) := by
        obtain ⟨c, front', rfl, hc⟩ := hvalue.head
        simpa using nextItem_item hbefore hc.not_delimiter (front' ++ (tail ++ rest))
      have hread : ∀ draft₁ behind, draft.read e.field (front ++ (tail ++ rest)) =
          .ok (draft₁, behind) ↔ _ := fun _ _ =>
        Draft.read_field_eq_ok_iff e blanks_nil hvalue (hitems.delimits rfl rest)
      have hfresh₁ : ∀ y, ∀ f ∈ es,
          f.name ∉ (⟨e.keep draft.value y, e.name :: draft.seen⟩ : Draft α).seen := by
        intro y f hf hmem
        rcases List.mem_cons.1 hmem with hsame | hmem
        · exact hname (List.mem_map.2 ⟨f, hf, hsame⟩)
        · exact hfresh' f hf hmem
      have hrest := fun y => ih hsub' hnames hlater hitems (hfresh₁ y)
      have he := hsub e List.mem_cons_self
      simp only [readFields_item hnext, hread]
      constructor
      · rintro ⟨behind, ⟨_, _, ⟨⟨y, hy, rfl⟩, rfl⟩, hfields⟩, hend⟩
        obtain ⟨hlength, hfills, hrequired, rfl⟩ := (hrest y).1 ⟨behind, hfields, hend⟩
        have hseen : e.name ∈ draft'.seen := hfills.mem_seen List.mem_cons_self
        exact ⟨Nat.succ_le_succ hlength, .known he (hfresh e List.mem_cons_self) hy hfills,
          List.forall_mem_cons.2 ⟨fun _ => hseen, hrequired⟩, rfl⟩
      · rintro ⟨hlength, hfills, hrequired, rfl⟩
        obtain ⟨-, y, hy, hfills⟩ := hfills.of_cons hentries he rfl
        obtain ⟨behind, hfields, hend⟩ := (hrest y).2 ⟨Nat.le_of_succ_le_succ hlength, hfills,
          fun f hf => hrequired f (List.mem_cons_of_mem _ hf), rfl⟩
        exact ⟨behind, ⟨_, _, ⟨⟨y, hy, rfl⟩, rfl⟩, hfields⟩, hend⟩

/-! ## What the members give -/

/-- What some members give to a field: the one value they have for it, or its default if there is
one and they have none. -/
def Given {β : Type} (Means : Value → β → Prop) (default : Option β) (name : String)
    (ms : List (Option String × Value)) (y : β) : Prop :=
  (∃ v, valuesOf name ms = [v] ∧ Means v y) ∨ (valuesOf name ms = [] ∧ default = some y)

theorem valuesOf_cons_of_ne {name name' : String} (h : name' ≠ name) (v : Value)
    (ms : List (Option String × Value)) :
    valuesOf name ((some name', v) :: ms) = valuesOf name ms := by
  simp [valuesOf, h]

theorem valuesOf_cons_self (name : String) (v : Value) (ms : List (Option String × Value)) :
    valuesOf name ((some name, v) :: ms) = v :: valuesOf name ms := by
  simp [valuesOf]

section Gives

variable {entries : List (Entry α)} {ms : List (Option String × Value)} {draft draft' : Draft α}

/-- The names that some members fill into a draft. -/
theorem Fills.mem_seen_iff (h : Fills entries ms draft draft')
    {e : Entry α} (he : e ∈ entries) :
    e.name ∈ draft'.seen ↔ e.name ∈ draft.seen ∨ valuesOf e.name ms ≠ [] := by
  induction h with
  | done => simp [valuesOf]
  | @unknown name v ms draft draft' hunknown _ ih =>
    rw [ih, valuesOf_cons_of_ne (Ne.symm (hunknown e he))]
  | @known e' v y ms draft draft' he' hseen hy _ ih =>
    rw [ih]
    by_cases hname : e.name = e'.name
    · simp [hname, valuesOf_cons_self]
    · rw [valuesOf_cons_of_ne (Ne.symm hname)]
      simp [hname]

/-- A field of a structure takes the one value that the members have for it, if none was read
before, or stays as it is in the draft. -/
def Entry.Takes (e : Entry α) (draft : Draft α) (ms : List (Option String × Value)) (x : α) :
    Prop :=
  (∃ v, valuesOf e.name ms = [v] ∧ e.name ∉ draft.seen ∧ e.Means v (e.get x)) ∨
    (valuesOf e.name ms = [] ∧ e.get x = e.get draft.value)

/-- A structure that is made of a draft and some members. -/
def Gives (entries : List (Entry α)) (draft : Draft α) (ms : List (Option String × Value))
    (x : α) : Prop :=
  (∀ m ∈ ms, m.1.isSome = true) ∧ ∀ e ∈ entries, e.Takes draft ms x

theorem Entry.takes_cons_of_ne {e : Entry α} {name : String} (h : e.name ≠ name) {v : Value}
    {x : α} : e.Takes draft ((some name, v) :: ms) x ↔ e.Takes draft ms x := by
  unfold Takes
  rw [valuesOf_cons_of_ne (Ne.symm h)]

theorem Entry.takes_cons_self {e : Entry α} {v : Value} {x : α} :
    e.Takes draft ((some e.name, v) :: ms) x ↔
      e.name ∉ draft.seen ∧ valuesOf e.name ms = [] ∧ e.Means v (e.get x) := by
  unfold Takes
  rw [valuesOf_cons_self]
  constructor
  · rintro (⟨w, hvalues, hseen, hmeans⟩ | ⟨hnone, -⟩)
    · obtain ⟨rfl, hrest⟩ := List.cons.inj hvalues
      exact ⟨hseen, hrest, hmeans⟩
    · cases hnone
  · rintro ⟨hseen, hrest, hmeans⟩
    exact Or.inl ⟨v, by rw [hrest], hseen, hmeans⟩

/-- A field that has been read takes nothing more. -/
theorem Entry.takes_keep_self {e : Entry α} {y : e.Content} {x : α} :
    e.Takes ⟨e.keep draft.value y, e.name :: draft.seen⟩ ms x ↔
      valuesOf e.name ms = [] ∧ e.get x = y := by
  unfold Takes
  rw [e.get_keep]
  constructor
  · rintro (⟨_, -, hseen, -⟩ | hkept)
    · exact absurd List.mem_cons_self hseen
    · exact hkept
  · exact Or.inr

theorem Independent.takes_keep_of_ne (hentries : Independent entries) {e f : Entry α}
    (he : e ∈ entries) (hf : f ∈ entries) (h : f.name ≠ e.name) {y : e.Content} {x : α} :
    f.Takes ⟨e.keep draft.value y, e.name :: draft.seen⟩ ms x ↔ f.Takes draft ms x := by
  unfold Entry.Takes
  rw [hentries.get_keep f hf e he h, List.mem_cons, or_iff_right h]

theorem gives_cons_of_unknown {name : String} {v : Value} {x : α}
    (h : ∀ e ∈ entries, e.name ≠ name) :
    Gives entries draft ((some name, v) :: ms) x ↔ Gives entries draft ms x := by
  unfold Gives
  simp only [List.forall_mem_cons, Option.isSome_some, true_and]
  exact and_congr_right fun _ => forall₂_congr fun e he => Entry.takes_cons_of_ne (h e he)

theorem gives_cons_of_known (hentries : Independent entries) {e : Entry α} (he : e ∈ entries)
    {v : Value} {x : α} :
    Gives entries draft ((some e.name, v) :: ms) x ↔
      e.name ∉ draft.seen ∧ ∃ y, e.Means v y ∧
        Gives entries ⟨e.keep draft.value y, e.name :: draft.seen⟩ ms x := by
  unfold Gives
  simp only [List.forall_mem_cons, Option.isSome_some, true_and]
  constructor
  · rintro ⟨hnames, hfields⟩
    obtain ⟨hseen, hrest, hmeans⟩ := Entry.takes_cons_self.1 (hfields e he)
    refine ⟨hseen, e.get x, hmeans, hnames, fun f hf => ?_⟩
    by_cases hname : f.name = e.name
    · obtain rfl := hentries.eq_of_name hf he hname
      exact Entry.takes_keep_self.2 ⟨hrest, rfl⟩
    · rw [hentries.takes_keep_of_ne he hf hname]
      exact (Entry.takes_cons_of_ne hname).1 (hfields f hf)
  · rintro ⟨hseen, y, hmeans, hnames, hfields⟩
    obtain ⟨hrest, rfl⟩ := Entry.takes_keep_self.1 (hfields e he)
    refine ⟨hnames, fun f hf => ?_⟩
    by_cases hname : f.name = e.name
    · obtain rfl := hentries.eq_of_name hf he hname
      exact Entry.takes_cons_self.2 ⟨hseen, hrest, hmeans⟩
    · rw [Entry.takes_cons_of_ne hname]
      exact (hentries.takes_keep_of_ne he hf hname).1 (hfields f hf)

/-- Filling a draft gives the structure that the members describe. -/
theorem fills_iff_gives (hentries : Independent entries) {x : α} :
    (∃ draft', Fills entries ms draft draft' ∧ draft'.value = x) ↔ Gives entries draft ms x := by
  induction ms generalizing draft with
  | nil =>
    constructor
    · rintro ⟨_, hfills, rfl⟩
      cases hfills
      exact ⟨nofun, fun e _ => Or.inr ⟨rfl, rfl⟩⟩
    · rintro ⟨-, hfields⟩
      refine ⟨draft, .done, hentries.ext _ _ fun e he => ?_⟩
      rcases hfields e he with ⟨_, hvalues, -⟩ | ⟨-, hget⟩
      · cases hvalues
      · exact hget.symm
  | cons m ms ih =>
    obtain ⟨name, v⟩ := m
    cases name with
    | none =>
      refine iff_of_false ?_ ?_
      · rintro ⟨_, hfills, -⟩
        cases hfills
      · rintro ⟨hnames, -⟩
        cases hnames (none, v) List.mem_cons_self
    | some name =>
      by_cases hknown : ∃ e ∈ entries, e.name = name
      · obtain ⟨e, he, rfl⟩ := hknown
        rw [gives_cons_of_known hentries he]
        simp only [← ih]
        constructor
        · rintro ⟨draft', hfills, rfl⟩
          obtain ⟨hseen, y, hy, hfills⟩ := hfills.of_cons hentries he rfl
          exact ⟨hseen, y, hy, draft', hfills, rfl⟩
        · rintro ⟨hseen, y, hy, draft', hfills, rfl⟩
          exact ⟨draft', .known he hseen hy hfills, rfl⟩
      · have hunknown : ∀ e ∈ entries, e.name ≠ name := fun e he hname => hknown ⟨e, he, hname⟩
        rw [gives_cons_of_unknown hunknown, ← ih]
        refine exists_congr fun draft' => and_congr_left fun _ =>
          ⟨fun hfills => ?_, .unknown hunknown⟩
        cases hfills with
        | unknown _ hfills => exact hfills
        | known he => exact absurd rfl (hunknown _ he)

end Gives

/-! ## Structures -/

/-- The structure that a value describes: each field has the one value that the members have for it,
or the value of the empty structure if it is not required and they have none. -/
def IsRecord (entries : List (Entry α)) (empty : α) (v : Value) (x : α) : Prop :=
  ∃ ms, v.Members (entries.map (·.name)) ms ∧ (∀ m ∈ ms, m.1.isSome = true) ∧ ∀ e ∈ entries,
    Given e.Means (if e.required then none else some (e.get empty)) e.name ms (e.get x)

section Record

variable {entries : List (Entry α)} {shape : Shape α}

theorem Entry.takes_empty_iff_given {e : Entry α} {empty x : α}
    {ms : List (Option String × Value)} :
    e.Takes ⟨empty, []⟩ ms x ∧ (e.required = true → valuesOf e.name ms ≠ []) ↔
      Given e.Means (if e.required then none else some (e.get empty)) e.name ms (e.get x) := by
  unfold Takes Given
  constructor
  · rintro ⟨⟨v, hvalues, -, hmeans⟩ | ⟨hnone, hget⟩, hrequired⟩
    · exact Or.inl ⟨v, hvalues, hmeans⟩
    · cases hr : e.required with
      | true => exact absurd hnone (hrequired hr)
      | false => exact Or.inr ⟨hnone, congrArg some hget.symm⟩
  · rintro (⟨v, hvalues, hmeans⟩ | ⟨hnone, hdefault⟩)
    · exact ⟨Or.inl ⟨v, hvalues, nofun, hmeans⟩, fun _ => by rw [hvalues]; nofun⟩
    · cases hr : e.required with
      | true =>
        rw [hr] at hdefault
        cases hdefault
      | false =>
        rw [hr] at hdefault
        exact ⟨Or.inr ⟨hnone, (Option.some.inj hdefault).symm⟩, nofun⟩

/-- A draft is filled with all the required fields exactly as the members describe it. -/
theorem fills_required_iff_given (hentries : Independent entries) {empty x : α}
    {ms : List (Option String × Value)} :
    (∃ draft, Fills entries ms ⟨empty, []⟩ draft ∧
        (∀ e ∈ entries, e.required = true → e.name ∈ draft.seen) ∧ draft.value = x) ↔
      (∀ m ∈ ms, m.1.isSome = true) ∧ ∀ e ∈ entries,
        Given e.Means (if e.required then none else some (e.get empty)) e.name ms (e.get x) := by
  have hseen : ∀ draft, Fills entries ms ⟨empty, []⟩ draft →
      ((∀ e ∈ entries, e.required = true → e.name ∈ draft.seen) ↔
        ∀ e ∈ entries, e.required = true → valuesOf e.name ms ≠ []) := by
    intro draft hfills
    refine forall₂_congr fun e he => imp_congr_right fun _ => ?_
    rw [hfills.mem_seen_iff he]
    simp
  constructor
  · rintro ⟨draft, hfills, hrequired, hvalue⟩
    obtain ⟨hnames, htakes⟩ := (fills_iff_gives hentries).1 ⟨draft, hfills, hvalue⟩
    have hall := (hseen draft hfills).1 hrequired
    exact ⟨hnames, fun e he => Entry.takes_empty_iff_given.1 ⟨htakes e he, hall e he⟩⟩
  · rintro ⟨hnames, hgiven⟩
    have hall := fun e he => Entry.takes_empty_iff_given.2 (hgiven e he)
    obtain ⟨draft, hfills, hvalue⟩ :=
      (fills_iff_gives hentries).2 ⟨hnames, fun e he => (hall e he).1⟩
    exact ⟨draft, hfills, (hseen draft hfills).2 fun e he => (hall e he).2, hvalue⟩

theorem missing?_eq_none_iff (hshape : shape.fields = entries.map Entry.field) {draft : Draft α} :
    shape.missing? draft = none ↔
      ∀ e ∈ entries, e.required = true → e.name ∈ draft.seen := by
  have hpresence : ∀ e : Entry α, e.field.presence = .required ↔ e.required = true := by
    intro e
    cases h : e.required <;> simp [Entry.field, RecordField.of, h]
  rw [Shape.missing?, Option.map_eq_none_iff, List.find?_eq_none, hshape]
  simp only [List.forall_mem_map, Bool.and_eq_true, beq_iff_eq, Bool.not_eq_true', hpresence,
    not_and, Bool.not_eq_false, List.contains_iff_mem]
  rfl

theorem leaveObject_end (rest : List Char) : leaveObject ('\x7d' :: rest) = rest := by
  rw [leaveObject, skipBlanks_cons rfl]
  rfl

/-- A structure is read from the lists that describe it. -/
theorem readRecord_list_eq_ok_iff (hentries : Independent entries)
    (hshape : shape.fields = entries.map Entry.field) {vs : List Value} {cs rest rest' : List Char}
    (h : Part.Written (.items true vs) cs) {x : α} :
    readRecord shape ('[' :: (cs ++ rest)) = .ok (x, rest') ↔
      IsRecord entries shape.empty (.list vs) x ∧ rest' = rest := by
  have hfirst : (0 == 0) = true := rfl
  have hfresh : ∀ e ∈ entries, e.name ∉ (⟨shape.empty, []⟩ : Draft α).seen := fun _ _ => nofun
  have hfields : ∀ draft rest', (∃ behind,
      readFields (shape.title ++ " with " ++ shape.elements) (entries.map Entry.field) 0
        ⟨shape.empty, []⟩ (cs ++ rest) = .ok (draft, behind) ∧ endList behind = .ok rest') ↔ _ :=
    fun _ _ => readFields_eq_ok_iff hentries entries (fun _ he => he) hentries.names hfirst h hfresh
  rw [readRecord, skipBlanks_cons rfl]
  dsimp only
  rw [if_pos rfl, hshape]
  constructor
  · intro hrecord
    obtain ⟨⟨draft, behind⟩, hread, hrecord⟩ := bind_eq_ok_iff.1 hrecord
    obtain ⟨_, hend, hrecord⟩ := bind_eq_ok_iff.1 hrecord
    cases hrecord
    obtain ⟨hlength, hfills, hrequired, rfl⟩ := (hfields draft rest').1 ⟨behind, hread, hend⟩
    exact ⟨⟨_, .list (by simpa using hlength),
      (fills_required_iff_given hentries).1 ⟨draft, hfills, hrequired, rfl⟩⟩, rfl⟩
  · rintro ⟨⟨_, hms, hgiven⟩, rfl⟩
    cases hms with
    | list hlength =>
      obtain ⟨draft, hfills, hrequired, rfl⟩ := (fills_required_iff_given hentries).2 hgiven
      obtain ⟨behind, hread, hend⟩ :=
        (hfields draft rest').2 ⟨by simpa using hlength, hfills, hrequired, rfl⟩
      exact bind_eq_ok_iff.2 ⟨_, hread, bind_eq_ok_iff.2 ⟨_, hend, rfl⟩⟩

/-- A structure is read from the objects that describe it. -/
theorem readRecord_object_eq_ok_iff (hentries : Independent entries)
    (hshape : shape.fields = entries.map Entry.field) {ms : List (Option String × Value)}
    {cs rest rest' : List Char} (h : Part.Written (.members true ms) cs) {x : α} :
    readRecord shape ('\x7b' :: (cs ++ rest)) = .ok (x, rest') ↔
      IsRecord entries shape.empty (.object ms) x ∧ rest' = rest := by
  have hfuel : ms.length < (cs ++ rest).length + 1 := by
    have hlt := length_lt_of_written_members h
    rw [List.length_append]
    omega
  have hmembers : ∀ draft behind, readMembers (entries.map Entry.field) ((cs ++ rest).length + 1)
      true ⟨shape.empty, []⟩ (cs ++ rest) = .ok (draft, behind) ↔ _ := fun _ _ =>
    readMembers_eq_ok_iff hentries h hfuel
  rw [readRecord, skipBlanks_cons rfl]
  dsimp only
  rw [if_neg (by decide), if_pos rfl, hshape]
  constructor
  · intro hrecord
    obtain ⟨⟨draft, behind⟩, hread, hrecord⟩ := bind_eq_ok_iff.1 hrecord
    obtain ⟨hfills, rfl⟩ := (hmembers draft behind).1 hread
    dsimp only at hrecord
    rw [leaveObject_end] at hrecord
    split at hrecord
    · rename_i hmissing
      cases hrecord
      exact ⟨⟨_, .object, (fills_required_iff_given hentries).1
        ⟨draft, hfills, (missing?_eq_none_iff hshape).1 hmissing, rfl⟩⟩, rfl⟩
    · cases hrecord
  · rintro ⟨⟨_, hms, hgiven⟩, rfl⟩
    cases hms with
    | object =>
      obtain ⟨draft, hfills, hrequired, rfl⟩ := (fills_required_iff_given hentries).2 hgiven
      refine bind_eq_ok_iff.2 ⟨_, (hmembers draft _).2 ⟨hfills, rfl⟩, ?_⟩
      dsimp only
      rw [(missing?_eq_none_iff hshape).2 hrequired, leaveObject_end]
      rfl

/-- A structure is read from the values that describe it. -/
theorem reads_record (hentries : Independent entries)
    (hshape : shape.fields = entries.map Entry.field) :
    Reads (readRecord shape) (IsRecord entries shape.empty) where
  blanks before cs hbefore := by rw [readRecord, readRecord, skipBlanks_append hbefore]
  eq_ok_iff v cs h rest hrest x rest' := by
    obtain ⟨c, cs', rfl, hc⟩ := h.head
    rw [List.cons_append]
    by_cases hlist : c = '['
    · subst hlist
      obtain ⟨vs, rfl⟩ := Value.eq_list_of_begins hc
      cases h with
      | list hitems => exact readRecord_list_eq_ok_iff hentries hshape hitems
    by_cases hobject : c = '\x7b'
    · subst hobject
      obtain ⟨ms, rfl⟩ := Value.eq_object_of_begins hc
      cases h with
      | object hmembers => exact readRecord_object_eq_ok_iff hentries hshape hmembers
    -- a value of another kind is refused, and it has no members
    rw [readRecord, skipBlanks_cons (isJsonBlank_of_not_delimiter hc.not_delimiter)]
    dsimp only
    rw [if_neg hlist, if_neg hobject]
    refine iff_of_false (unexpected_ne_ok _ _ _) ?_
    rintro ⟨⟨_, hms, -⟩, -⟩
    cases hms with
    | object => exact hobject hc
    | list => exact hlist hc

end Record

end ImageBuild.Json
