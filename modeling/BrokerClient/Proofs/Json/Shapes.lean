import BrokerClient.Proofs.Json.Numbers
import BrokerClient.Proofs.Json.Texts

/-!
# Values of an expected shape read back

The form of a text, of a list and of a record is read as what it is the form of, given the same for the items and
the fields. The loops follow the forms: one lemma for what stands before an item or a member and one for the
closing bracket. `run_reading` is the result for a source that hands on a whole text.
-/

namespace BrokerClient.Json

namespace Parser

open Text (Utf8.ofString)

variable {α ρ : Type} {bound depth : Nat} {text : Bytes}

/-! ## Texts -/

/-- **A text is read back.** -/
theorem reads_text (s expected : String) : Reads bound (Parser.text expected) (Utf8.ofString (renderString s)) s := by
  intro rest hend hb
  rw [ofString_renderString, List.cons_append, List.append_assoc] at hb ⊢
  refine (parses_valueStart (by decide)).bind (parses_skip.bind ?_)
  exact parses_stringRest s (Nat.le_of_succ_le hb)

/-! ## Lists -/

/-- What stands before an item or a member. -/
def comma (first : Bool) : Bytes := if first then [] else [0x2C]

/-- The forms of the items, from the first of all or from behind another. -/
def itemsForm : Bool → List Bytes → Bytes
  | _, [] => []
  | first, form :: rest => comma first ++ (form ++ itemsForm false rest)

def listForm (forms : List Bytes) : Bytes := 0x5B :: (itemsForm true forms ++ [0x5D])

/-- A form that an item can have: no blank, no comma and no bracket comes first. -/
def Opens (form : Bytes) : Prop :=
  ∃ b rest, form = b :: rest ∧ isSpace (asChar b) = false ∧ asChar b ≠ ',' ∧ asChar b ≠ ']'

theorem parses_hasItem_close (first : Bool) :
    Parses bound (hasItem first) (.before (0x5D :: text)) false (.seeing 0x5D text) :=
  (parses_significant (by decide)).bind (.pure false)

theorem parses_hasItem (first : Bool) {form : Bytes} (h : Opens form) :
    Parses bound (hasItem first) (.before (comma first ++ (form ++ text))) true (.before (form ++ text)) := by
  obtain ⟨b, rest, rfl, hspace, hcomma, hclose⟩ := h
  cases first with
  | true =>
    refine Parses.forget ((parses_significant hspace).bind ?_)
    split
    · contradiction
    · rename_i heq
      exact absurd (Option.some.inj heq) hclose
    · rename_i heq
      exact absurd (Option.some.inj heq) hcomma
    · exact .pure true
  | false =>
    refine Parses.forget ((parses_significant (b := 0x2C) (by decide)).bind (parses_skip.bind
      ((parses_significant hspace).bind ?_)))
    split
    · contradiction
    · rename_i heq
      exact absurd (Option.some.inj heq) hclose
    · exact .pure true

theorem parses_closeList : Parses bound closeList (.before (0x5D :: text)) () (.before text) :=
  (parses_significant (by decide)).bind parses_skip

theorem delimited_items (forms : List Bytes) : Delimited (itemsForm false forms ++ 0x5D :: text) := by
  cases forms with
  | nil => exact delimited_cons (by decide)
  | cons form forms => exact delimited_cons (by decide)

theorem parses_items {item : Parser α} {form : α → Bytes} {as : List α}
    (hitem : ∀ a ∈ as, Reads bound item (form a) a) (hopens : ∀ a ∈ as, Opens (form a)) (fuel : Nat)
    (found : List α) (hf : as.length < fuel) (hb : (itemsForm found.isEmpty (as.map form) ++ 0x5D :: text).length ≤ bound) :
    Parses bound (items item fuel found) (.before (itemsForm found.isEmpty (as.map form) ++ 0x5D :: text))
      (found.reverse ++ as) (.seeing 0x5D text) := by
  induction as generalizing fuel found with
  | nil =>
    obtain ⟨fuel, rfl⟩ : ∃ n, fuel = n + 1 := ⟨fuel - 1, by omega⟩
    rw [List.append_nil]
    exact (parses_hasItem_close _).bind (.pure _)
  | cons a as ih =>
    obtain ⟨fuel, rfl⟩ : ∃ n, fuel = n + 1 := ⟨fuel - 1, by omega⟩
    rw [List.map_cons, itemsForm, List.append_assoc, List.append_assoc] at hb ⊢
    have hrest := ih (fun a ha => hitem a (List.mem_cons_of_mem _ ha)) (fun a ha => hopens a (List.mem_cons_of_mem _ ha))
      fuel (a :: found) (by simpa using hf) (by simp at hb ⊢; omega)
    rw [List.reverse_cons, List.append_assoc] at hrest
    refine (parses_hasItem _ (hopens a (List.mem_cons_self ..))).bind ?_
    refine (hitem a (List.mem_cons_self ..) _ (delimited_items _) ?_).bind hrest
    rw [List.length_append] at hb
    omega

theorem length_le_itemsForm (first : Bool) {form : α → Bytes} {as : List α} (hopens : ∀ a ∈ as, Opens (form a)) :
    as.length ≤ (itemsForm first (as.map form)).length := by
  induction as generalizing first with
  | nil => exact Nat.zero_le _
  | cons a as ih =>
    obtain ⟨b, rest, heq, -⟩ := hopens a (List.mem_cons_self ..)
    have hrest := ih false fun a ha => hopens a (List.mem_cons_of_mem _ ha)
    simp only [List.map_cons, itemsForm, heq, List.length_append, List.length_cons]
    omega

/-- **A list is read back when its items are.** -/
theorem reads_list {item : Nat → Parser α} {form : α → Bytes} {as : List α} (hdepth : 1 < depth)
    (hitem : ∀ a ∈ as, Reads bound (item (depth - 1)) (form a) a) (hopens : ∀ a ∈ as, Opens (form a)) :
    Reads bound (list item depth) (listForm (as.map form)) as := by
  intro text hend hb
  rw [listForm, List.cons_append, List.append_assoc] at hb ⊢
  have hlen := length_le_itemsForm true hopens
  rw [List.length_cons, List.length_append] at hb
  have hitems : Parses bound _ _ _ (.seeing 0x5D text) :=
    parses_items hitem hopens (bound + 1) [] (by omega) (by simp at hb ⊢; omega)
  refine (parses_valueStart (by decide)).bind ((parses_openBracket hdepth).bind ?_)
  exact parses_enclosed (parses_rounds.bind hitems) parses_closeList.seeing

/-! ## Records -/

/-- The bytes of a value. -/
def valueForm (v : Value) : Bytes := Utf8.ofString v.render

/-- A field as it is written: its value, and what reading it does to the record. -/
structure Member (ρ : Type) where
  field : RecordField ρ
  value : Value
  change : ρ → ρ

/-- A member: its key, a colon and its value. -/
def Member.written (m : Member ρ) : Bytes := 0x22 :: (escaped m.field.name ++ 0x22 :: 0x3A :: valueForm m.value)

/-- The forms of the members, from the first of all or from behind another. -/
def membersForm (first : Bool) (members : List (Member ρ)) : Bytes := itemsForm first (members.map Member.written)

def recordForm (members : List (Member ρ)) : Bytes := 0x7B :: (membersForm true members ++ [0x7D])

theorem parses_hasMember_close (first : Bool) :
    Parses bound (hasMember first) (.before (0x7D :: text)) false (.seeing 0x7D text) :=
  (parses_significant (by decide)).bind (.pure false)

theorem parses_hasMember (first : Bool) :
    Parses bound (hasMember first) (.before (comma first ++ 0x22 :: text)) true (.seeing 0x22 text) := by
  cases first with
  | true => exact (parses_significant (by decide)).bind (.pure true)
  | false =>
    exact (parses_significant (b := 0x2C) (by decide)).bind (parses_skip.bind
      ((parses_significant (by decide)).bind (.pure true)))

theorem parses_key (name : String) (hb : (escaped name ++ 0x22 :: text).length ≤ bound) :
    Parses bound key (.seeing 0x22 (escaped name ++ 0x22 :: text)) name (.before text) :=
  parses_skip.bind (parses_stringRest name hb)

theorem parses_colon : Parses bound colon (.before (0x3A :: text)) () (.before text) :=
  (parses_significant (by decide)).bind parses_skip

theorem parses_closeObject : Parses bound closeObject (.before (0x7D :: text)) () (.before text) :=
  (parses_significant (by decide)).bind parses_skip

theorem delimited_members (members : List (Member ρ)) : Delimited (membersForm false members ++ 0x7D :: text) := by
  cases members with
  | nil => exact delimited_cons (by decide)
  | cons m members => exact delimited_cons (by decide)

/-- A member that is the form of a field not yet given changes the record. -/
theorem parses_member {s : RecordShape ρ} {m : Member ρ} {fuel : Nat} (first : Bool) {seen : List String}
    {record result : ρ} {rest : Bytes} {q : Position} (hfind : s.fields.find? (·.name == m.field.name) = some m.field)
    (hseen : m.field.name ∉ seen) (hread : Reads bound (m.field.change depth) (valueForm m.value) m.change)
    (hend : Delimited rest) (hb : (m.written ++ rest).length ≤ bound)
    (hrest : Parses bound (s.fromMembers depth fuel false (m.field.name :: seen) (m.change record)) (.before rest) result q) :
    Parses bound (s.fromMembers depth (fuel + 1) first seen record) (.before (comma first ++ (m.written ++ rest))) result q := by
  have hnot : seen.contains m.field.name = false := by simpa using hseen
  have hsplit : m.written ++ rest = 0x22 :: (escaped m.field.name ++ 0x22 :: 0x3A :: (valueForm m.value ++ rest)) := by
    simp [Member.written, List.append_assoc]
  rw [hsplit] at hb ⊢
  simp only [List.length_append, List.length_cons] at hb
  have hkey : Parses bound _ _ _ (.before (0x3A :: (valueForm m.value ++ rest))) :=
    parses_key m.field.name (by simp only [List.length_append, List.length_cons]; omega)
  have hvalue := hread rest hend (by simp only [List.length_append]; omega)
  refine (parses_hasMember first).bind (hkey.bind ?_)
  simp only [hfind, hnot]
  exact parses_colon.bind (hvalue.bind hrest)

/-- The members of a record are read one by one, when each is the form of a field that has not been given. -/
theorem parses_fromMembers {s : RecordShape ρ} {members : List (Member ρ)}
    (hfind : ∀ m ∈ members, s.fields.find? (·.name == m.field.name) = some m.field)
    (hread : ∀ m ∈ members, Reads bound (m.field.change depth) (valueForm m.value) m.change) (fuel : Nat) (first : Bool)
    (seen : List String) (record : ρ) (hf : members.length < fuel)
    (hnew : (members.map (·.field.name)).Nodup ∧ ∀ m ∈ members, m.field.name ∉ seen)
    (hall : ∀ f ∈ s.fields, f.name ∈ (members.map (·.field.name)).reverse ++ seen)
    (hb : (membersForm first members ++ 0x7D :: text).length ≤ bound) :
    Parses bound (s.fromMembers depth fuel first seen record) (.before (membersForm first members ++ 0x7D :: text))
      (members.foldl (fun r m => m.change r) record) (.seeing 0x7D text) := by
  induction members generalizing fuel first seen record with
  | nil =>
    obtain ⟨fuel, rfl⟩ : ∃ n, fuel = n + 1 := ⟨fuel - 1, by omega⟩
    have hnone : (s.fields.find? fun f => s.required && !seen.contains f.name) = none := by
      rw [List.find?_eq_none]
      intro f hfield
      have hmem : f.name ∈ seen := hall f hfield
      simp [hmem]
    refine (parses_hasMember_close first).bind ?_
    simp only [hnone]
    exact .pure _
  | cons m members ih =>
    obtain ⟨fuel, rfl⟩ : ∃ n, fuel = n + 1 := ⟨fuel - 1, by omega⟩
    obtain ⟨hnodup, hseen⟩ := hnew
    obtain ⟨hfirst, hnodup⟩ := List.nodup_cons.1 hnodup
    have hothers : ∀ n ∈ members, n.field.name ∉ m.field.name :: seen := by
      intro n hn hmem
      rcases List.mem_cons.1 hmem with heq | hmem
      · exact hfirst (List.mem_map.2 ⟨n, hn, heq⟩)
      · exact hseen n (List.mem_cons_of_mem _ hn) hmem
    have hgiven : ∀ f ∈ s.fields, f.name ∈ (members.map (·.field.name)).reverse ++ m.field.name :: seen := by
      intro f hfield
      have := hall f hfield
      rwa [List.map_cons, List.reverse_cons, List.append_assoc] at this
    have hsplit : membersForm first (m :: members) ++ 0x7D :: text =
        comma first ++ (m.written ++ (membersForm false members ++ 0x7D :: text)) := by
      simp [membersForm, itemsForm, List.append_assoc]
    rw [hsplit] at hb ⊢
    rw [List.length_append] at hb
    have hlen := hb
    rw [List.length_append] at hlen
    have hrest := ih (fun n hn => hfind n (List.mem_cons_of_mem _ hn)) (fun n hn => hread n (List.mem_cons_of_mem _ hn))
      fuel false (m.field.name :: seen) (m.change record) (by simpa using hf) ⟨hnodup, hothers⟩ hgiven (by omega)
    exact parses_member first (hfind m (List.mem_cons_self ..)) (hseen m (List.mem_cons_self ..))
      (hread m (List.mem_cons_self ..)) (delimited_members members) (by omega) hrest

theorem opens_written (m : Member ρ) : Opens m.written :=
  ⟨0x22, _, rfl, by decide, by decide, by decide⟩

/-- **A record is read back when its fields are**, all of them and each once. -/
theorem reads_record {s : RecordShape ρ} {members : List (Member ρ)} (hdepth : 1 < depth)
    (hfind : ∀ m ∈ members, s.fields.find? (·.name == m.field.name) = some m.field)
    (hread : ∀ m ∈ members, Reads bound (m.field.change (depth - 1)) (valueForm m.value) m.change)
    (hnodup : (members.map (·.field.name)).Nodup) (hall : ∀ f ∈ s.fields, f.name ∈ members.map (·.field.name)) :
    Reads bound (record s depth) (recordForm members) (members.foldl (fun r m => m.change r) s.start) := by
  intro text hend hb
  rw [recordForm, List.cons_append, List.append_assoc] at hb ⊢
  have hlen : members.length ≤ (membersForm true members).length := length_le_itemsForm true fun m _ => opens_written m
  have hb' := hb
  simp only [List.length_append, List.length_cons] at hb'
  have hmembers : Parses bound _ _ _ (.seeing 0x7D text) :=
    parses_fromMembers hfind hread (bound + 1) true [] s.start (by omega) ⟨hnodup, fun _ _ => List.not_mem_nil⟩
      (fun f hfield => by simpa using hall f hfield) (Nat.le_of_succ_le hb)
  refine (parses_valueStart (by decide)).bind ((parses_openBracket hdepth).bind ?_)
  exact parses_enclosed (parses_rounds.bind hmembers) parses_closeObject.seeing

/-! ## Forms of values -/

theorem ofString_intercalate (texts : List String) :
    Utf8.ofString (",".intercalate texts) = itemsForm true (texts.map Utf8.ofString) := by
  have hbehind (t : String) (texts : List String) : Utf8.ofString (",".intercalate (t :: texts)) =
      Utf8.ofString t ++ itemsForm false (texts.map Utf8.ofString) := by
    induction texts generalizing t with
    | nil => rw [String.intercalate_singleton, List.map_nil, itemsForm, List.append_nil]
    | cons u texts ih =>
      rw [String.intercalate_cons_cons, Text.Utf8.ofString_append, ih u, Text.Utf8.ofString_append, List.append_assoc]
      rfl
  cases texts with
  | nil => rfl
  | cons t texts => exact hbehind t texts

theorem valueForm_array (items : List Value) : valueForm (.array items) = listForm (items.map valueForm) := by
  have hitems : Value.renderItems items = items.map Value.render := by
    induction items with
    | nil => rfl
    | cons v items ih => rw [Value.renderItems, ih, List.map_cons]
  rw [valueForm, Value.render, Text.Utf8.ofString_append, Text.Utf8.ofString_append, ofString_intercalate, hitems,
    List.map_map]
  rfl

/-- A record's members are the members of its value. -/
theorem valueForm_object (members : List (Member ρ)) :
    valueForm (.object (members.map fun m => (m.field.name, m.value))) = recordForm members := by
  have hmembers : (Value.renderMembers (members.map fun m => (m.field.name, m.value))).map Utf8.ofString =
      members.map Member.written := by
    induction members with
    | nil => rfl
    | cons m members ih =>
      have hcolon : Utf8.ofString ":" = [0x3A] := rfl
      rw [List.map_cons, Value.renderMembers, List.map_cons, ih, Text.Utf8.ofString_append, Text.Utf8.ofString_append,
        ofString_renderString, hcolon, List.map_cons, Member.written]
      simp [valueForm]
  rw [valueForm, Value.render, Text.Utf8.ofString_append, Text.Utf8.ofString_append, ofString_intercalate, hmembers]
  rfl

/-! ## Whole texts -/

theorem parses_document {p : Nat → Parser α} {form : Bytes} {a : α} (h : Reads bound (p maxDepth) form a)
    (hb : form.length ≤ bound) : Parses bound (document p) (.before form) a (.before []) := by
  have hform := h [] delimited_nil (by rwa [List.append_nil])
  rw [List.append_nil] at hform
  exact hform.bind (parses_significant_nil.bind (.pure a))

end Parser

/-- **Reading a whole text gives its value**, from whatever source hands it on. -/
theorem run_reading {α σ : Type} [ByteStream.ByteSource σ] {p : Nat → Parser α} {bound : Nat} {form : Bytes} {a : α}
    (h : Parser.Reads bound (p maxDepth) form a) (hb : form.length ≤ bound) {s : σ} (hs : ByteStream.Streams s form) :
    ((reading p bound).run s).1 = .ok a := by
  obtain ⟨c, s', hrun, -⟩ := Parser.parses_document h hb σ {} s ⟨form, hs, rfl⟩
  refine (congrArg Prod.fst (ByteStream.Reading.run_bind _ _ s)).trans ?_
  rw [hrun]
  rfl

end BrokerClient.Json
