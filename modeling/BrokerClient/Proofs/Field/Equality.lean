import BrokerClient.Field.Equality

/-!
# Sameness is an equivalence

Two values that are the same as a third are the same as each other, and sameness does not depend on the order of the
two. That every value is the same as itself holds but for floating-point patterns that are not numbers: of all values
without such a pattern (`FieldValue.Numeric`).
-/

namespace BrokerClient

/-! ## Numbers -/

namespace Number.Format

/-- Whether a pattern stands for a number, infinities included. -/
def isNumber (f : Format) (bits : Nat) : Bool := bits % Nat.pow 2 (f.exponent + f.fraction) ≤ f.infinity

theorem sameNumber_self {f : Format} {a : Nat} (h : f.isNumber a = true) : f.sameNumber a a = true := by
  simp_all [sameNumber, isNumber]

theorem sameNumber_comm (f : Format) (a b : Nat) : f.sameNumber a b = f.sameNumber b a := by
  rw [Bool.eq_iff_iff]
  simp only [sameNumber, Bool.and_eq_true, Bool.or_eq_true, beq_iff_eq, decide_eq_true_eq]
  constructor <;> rintro ⟨⟨ha, hb⟩, h⟩ <;> exact ⟨⟨hb, ha⟩, h.imp Eq.symm And.symm⟩

theorem sameNumber_trans {f : Format} {a b c : Nat} (h : f.sameNumber a b = true) (h' : f.sameNumber b c = true) :
    f.sameNumber a c = true := by
  simp only [sameNumber, Bool.and_eq_true, Bool.or_eq_true, beq_iff_eq, decide_eq_true_eq] at *
  obtain ⟨⟨ha, -⟩, h⟩ := h
  obtain ⟨⟨-, hc⟩, h'⟩ := h'
  refine ⟨⟨ha, hc⟩, ?_⟩
  rcases h with rfl | ⟨ha, hb⟩
  · exact h'
  · rcases h' with rfl | ⟨-, hc⟩
    · exact .inr ⟨ha, hb⟩
    · exact .inr ⟨ha, hc⟩

end Number.Format

/-! ## Values -/

mutual

/-- Whether every floating-point pattern in a value stands for a number. -/
def FieldValue.isNumeric : FieldValue → Bool
  | .float a => Number.single.isNumber a.toNat
  | .double a => Number.double.isNumber a.toNat
  | .array items => FieldValue.areNumeric items
  | .table entries => FieldValue.haveNumeric entries
  | _ => true

def FieldValue.areNumeric : List FieldValue → Bool
  | [] => true
  | v :: rest => v.isNumeric && areNumeric rest

def FieldValue.haveNumeric {bound : Option String} : Entries FieldValue bound → Bool
  | .nil => true
  | .cons _ _ v rest => v.isNumeric && haveNumeric rest

end

/-- Whether every floating-point pattern in a table stands for a number. -/
def Table.isNumeric (t : Table) : Bool := FieldValue.haveNumeric t

mutual

theorem FieldValue.same_self : (v : FieldValue) → v.isNumeric = true → v.same v = true
  | .float a, h => Number.Format.sameNumber_self h
  | .double a, h => Number.Format.sameNumber_self h
  | .array items, h => sameItems_self items h
  | .table entries, h => sameEntries_self entries h
  | .boolean _, _ | .shortShortInt _, _ | .shortShortUInt _, _ | .shortInt _, _ | .shortUInt _, _ | .longInt _, _
  | .longUInt _, _ | .longLongInt _, _ | .decimal .., _ | .shortString _, _ | .longString _, _ | .timestamp _, _
  | .byteArray _, _ | .void, _ => by simp [same]

theorem FieldValue.sameItems_self : (items : List FieldValue) → areNumeric items = true → sameItems items items = true
  | [], _ => rfl
  | v :: rest, h => by
    obtain ⟨hv, hrest⟩ := Bool.and_eq_true_iff.1 h
    exact Bool.and_eq_true_iff.2 ⟨same_self v hv, sameItems_self rest hrest⟩

theorem FieldValue.sameEntries_self {bound : Option String} :
    (entries : Entries FieldValue bound) → haveNumeric entries = true → sameEntries entries entries = true
  | .nil, _ => rfl
  | .cons k _ v rest, h => by
    obtain ⟨hv, hrest⟩ := Bool.and_eq_true_iff.1 h
    simp [sameEntries, same_self v hv, sameEntries_self rest hrest]

end

mutual

theorem FieldValue.same_comm : (v w : FieldValue) → v.same w = w.same v
  | .float _, w => by cases w <;> simp [same, Number.Format.sameNumber_comm]
  | .double _, w => by cases w <;> simp [same, Number.Format.sameNumber_comm]
  | .array items, w => by
    cases w with
    | array others => exact sameItems_comm items others
    | _ => rfl
  | .table entries, w => by
    cases w with
    | table others => exact sameEntries_comm entries others
    | _ => rfl
  | .boolean _, w | .shortShortInt _, w | .shortShortUInt _, w | .shortInt _, w | .shortUInt _, w | .longInt _, w
  | .longUInt _, w | .longLongInt _, w | .decimal .., w | .shortString _, w | .longString _, w | .timestamp _, w
  | .byteArray _, w | .void, w => by cases w <;> simp [same, BEq.comm]

theorem FieldValue.sameItems_comm : (vs ws : List FieldValue) → sameItems vs ws = sameItems ws vs
  | [], [] | [], _ :: _ | _ :: _, [] => rfl
  | v :: vs, w :: ws => by rw [sameItems, sameItems, same_comm v w, sameItems_comm vs ws]

theorem FieldValue.sameEntries_comm {bound bound' : Option String} :
    (vs : Entries FieldValue bound) → (ws : Entries FieldValue bound') → sameEntries vs ws = sameEntries ws vs
  | .nil, .nil | .nil, .cons .. | .cons .., .nil => rfl
  | .cons k _ v vs, .cons l _ w ws => by
    rw [sameEntries, sameEntries, same_comm v w, sameEntries_comm vs ws, BEq.comm (a := k)]

end

mutual

theorem FieldValue.same_trans : (u v w : FieldValue) → u.same v = true → v.same w = true → u.same w = true
  | .float a, v, w, h, h' => by
    cases v with
    | float b => cases w with
      | float c => exact Number.Format.sameNumber_trans h h'
      | _ => cases h'
    | _ => cases h
  | .double a, v, w, h, h' => by
    cases v with
    | double b => cases w with
      | double c => exact Number.Format.sameNumber_trans h h'
      | _ => cases h'
    | _ => cases h
  | .array us, v, w, h, h' => by
    cases v with
    | array vs => cases w with
      | array ws => exact sameItems_trans us vs ws h h'
      | _ => cases h'
    | _ => cases h
  | .table us, v, w, h, h' => by
    cases v with
    | table vs => cases w with
      | table ws => exact sameEntries_trans us vs ws h h'
      | _ => cases h'
    | _ => cases h
  | .decimal .., v, w, h, h' => by
    cases v with
    | decimal _ _ =>
      obtain ⟨hscale, hvalue⟩ := Bool.and_eq_true_iff.1 h
      obtain rfl := eq_of_beq hscale
      obtain rfl := eq_of_beq hvalue
      exact h'
    | _ => cases h
  | .void, v, w, h, h' => by
    cases v with
    | void => exact h'
    | _ => cases h
  | .boolean _, v, w, h, h' | .shortShortInt _, v, w, h, h' | .shortShortUInt _, v, w, h, h' | .shortInt _, v, w, h, h'
  | .shortUInt _, v, w, h, h' | .longInt _, v, w, h, h' | .longUInt _, v, w, h, h' | .longLongInt _, v, w, h, h'
  | .shortString _, v, w, h, h' | .longString _, v, w, h, h' | .timestamp _, v, w, h, h'
  | .byteArray _, v, w, h, h' => by
    cases v <;> first
      | cases h
      | obtain rfl := eq_of_beq h
        exact h'

theorem FieldValue.sameItems_trans :
    (us vs ws : List FieldValue) → sameItems us vs = true → sameItems vs ws = true → sameItems us ws = true
  | [], [], _, _, h' => h'
  | u :: us, v :: vs, w :: ws, h, h' => by
    simp only [sameItems, Bool.and_eq_true] at *
    exact ⟨same_trans u v w h.1 h'.1, sameItems_trans us vs ws h.2 h'.2⟩

theorem FieldValue.sameEntries_trans {bound bound' bound'' : Option String} :
    (us : Entries FieldValue bound) → (vs : Entries FieldValue bound') → (ws : Entries FieldValue bound'') →
      sameEntries us vs = true → sameEntries vs ws = true → sameEntries us ws = true
  | .nil, .nil, .nil, _, _ => rfl
  | .nil, .nil, .cons .., _, h' => by cases h'
  | .cons k _ u us, .cons l _ v vs, .cons m _ w ws, h, h' => by
    simp only [sameEntries, Bool.and_eq_true, beq_iff_eq] at *
    obtain ⟨⟨rfl, huv⟩, hus⟩ := h
    obtain ⟨⟨rfl, hvw⟩, hvs⟩ := h'
    exact ⟨⟨rfl, same_trans u v w huv hvw⟩, sameEntries_trans us vs ws hus hvs⟩

end

namespace Table

variable {s t u : Table}

theorem same_self (h : t.isNumeric = true) : Table.same t t = true := FieldValue.sameEntries_self t h

theorem same_comm (s t : Table) : Table.same s t = Table.same t s := FieldValue.sameEntries_comm s t

theorem same_trans (h : Table.same s t = true) (h' : Table.same t u = true) : Table.same s u = true :=
  FieldValue.sameEntries_trans s t u h h'

end Table
end BrokerClient
