import ActionGraph.Proofs.Float
import ActionGraph.Proofs.Float.Order

/-!
# The laws of comparison

Two values have an order, or can only be equal or not, or cannot be compared (`Value.Relation`).
Which of these it is depends on their types, and it is the same when the values change places: an
order is then turned round. So all that is to be known of the 25 pairs of types and the six
operators follows from one order on each kind of values, and from the three cases.

What is not a number has no order even to itself. That is the only way in which a value differs from
itself, and in which three values of one order can fail to be less than, equal to or greater than
each other.
-/

namespace ActionGraph

namespace Comparison

/-- The operator that holds when the operands change places. -/
def mirrored : Comparison → Comparison
  | .lt => .gt
  | .le => .ge
  | .gt => .lt
  | .ge => .le
  | .eq => .eq
  | .ne => .ne

def IsOrdering (op : Comparison) : Prop := op ≠ .eq ∧ op ≠ .ne

theorem holds_mirrored (op : Comparison) (o : Option Ordering) :
    op.mirrored.holds (o.map .swap) = op.holds o := by
  cases o with
  | none => cases op <;> rfl
  | some o => cases op <;> cases o <;> rfl

theorem holds_ne (o : Option Ordering) : Comparison.ne.holds o = !Comparison.eq.holds o := by
  cases o with
  | none => rfl
  | some o => cases o <;> rfl

end Comparison

def ComparisonFault.mirrored : ComparisonFault → ComparisonFault
  | .incomparable left right => .incomparable right left
  | .unsupported op left right => .unsupported op.mirrored right left

namespace ValueType

/-- Whether values of these types can be compared at all. -/
def Meets (left right : ValueType) : Prop :=
  left = right ∨ left = .int ∧ right = .float ∨ left = .float ∧ right = .int

/-- Whether values of this type are equal or not, and nothing else. -/
def IsUnordered (type : ValueType) : Prop := type = .bool ∨ type = .entity

end ValueType

/-! ### Orders -/

theorem orderText_swap (s t : String) : orderText t s = (orderText s t).swap := by
  rcases lt_trichotomy s t with hlt | rfl | hgt
  · rw [orderText, orderText, if_pos hlt, if_neg hlt.not_gt, if_neg hlt.ne']
    rfl
  · rw [orderText, if_neg (lt_irrefl s), if_pos rfl]
    rfl
  · rw [orderText, orderText, if_pos hgt, if_neg hgt.not_gt, if_neg hgt.ne']
    rfl

namespace Magnitude

variable {x y : Float}

theorem isNaN_iff : x.isNaN = true ↔ place? x.toModel.unpack = none := by
  rw [place?_eq_none_iff]
  exact Float.Model.UnpackedFloat.isNaN_iff

/-- What two numbers in floating point come to, with what is not a number set apart. -/
theorem orderFloat_cases (x y : Float) :
    (∃ p q, place? x.toModel.unpack = some p ∧ place? y.toModel.unpack = some q ∧
      x.isNaN = false ∧ y.isNaN = false ∧
      orderFloat x y = some (cmp p q) ∧ orderFloat y x = some (cmp q p)) ∨
    (x.isNaN = true ∨ y.isNaN = true) ∧ orderFloat x y = none ∧ orderFloat y x = none := by
  have hnumber {x : Float} {p : Line} (hp : place? x.toModel.unpack = some p) :
      x.isNaN = false := by
    rw [← Bool.not_eq_true, isNaN_iff, hp]
    exact Option.some_ne_none p
  cases hx : place? x.toModel.unpack with
  | none =>
    exact .inr ⟨.inl (isNaN_iff.2 hx), orderFloat_of_nan (.inl hx), orderFloat_of_nan (.inr hx)⟩
  | some p =>
    cases hy : place? y.toModel.unpack with
    | none =>
      exact .inr ⟨.inr (isNaN_iff.2 hy), orderFloat_of_nan (.inr hy), orderFloat_of_nan (.inl hy)⟩
    | some q =>
      exact .inl ⟨p, q, rfl, rfl, hnumber hx, hnumber hy, orderFloat_of_place hx hy,
        orderFloat_of_place hy hx⟩

end Magnitude

namespace Value

def isNaN : Value → Bool
  | .float x => x.isNaN
  | .bool _ | .int _ | .string _ | .entity _ => false

/-! ### Three kinds of pairs -/

/-- How two values compare. -/
inductive Relation (a b : Value) : Prop
  | ordered (o : Option Ordering) (hmeets : a.type.Meets b.type)
      (hordered : ¬a.type.IsUnordered) (hcompare : ∀ op, a.compare op b = .ok (op.holds o))
      (hback : ∀ op, b.compare op a = .ok (op.holds (o.map .swap)))
      (hnone : o = none ↔ (a.isNaN || b.isNaN) = true)
  | equal (same : Bool) (htype : a.type = b.type) (hunordered : a.type.IsUnordered)
      (hcompare : ∀ op, a.compare op b = compareEqual op a.type same)
      (hback : ∀ op, b.compare op a = compareEqual op a.type same)
      (hself : a = b → same = true) (hnumber : a.isNaN = false)
  | apart (hapart : ¬a.type.Meets b.type)
      (hcompare : ∀ op, a.compare op b = .error (.incomparable a.type b.type))
      (hback : ∀ op, b.compare op a = .error (.incomparable b.type a.type))

theorem relation_of_float {a b : Value} {x y : Float} (hmeets : a.type.Meets b.type)
    (hordered : ¬a.type.IsUnordered)
    (hcompare : ∀ op, a.compare op b = .ok (op.holds (orderFloat x y)))
    (hback : ∀ op, b.compare op a = .ok (op.holds (orderFloat y x)))
    (hnan : (x.isNaN || y.isNaN) = (a.isNaN || b.isNaN)) : Relation a b := by
  rcases Magnitude.orderFloat_cases x y with ⟨p, q, -, -, hx, hy, hxy, hyx⟩ | ⟨hnone, hxy, hyx⟩
  · refine .ordered (some (cmp p q)) hmeets hordered ?_ ?_ ?_
    · rwa [hxy] at hcompare
    · rwa [hyx, ← cmp_swap] at hback
    · rw [← hnan, hx, hy]
      simp
  · refine .ordered none hmeets hordered ?_ ?_ ?_
    · rwa [hxy] at hcompare
    · rwa [hyx] at hback
    · rw [← hnan, Bool.or_eq_true]
      exact iff_of_true rfl hnone

theorem isNaN_nearestFloat (i : Int64) : (nearestFloat i).isNaN = false := by
  have hfinite : (nearestFloat i).toModel.unpack.isFinite = true :=
    Magnitude.isFinite_ofInt (Int64.le_toInt i) (by have := i.toInt_lt; omega)
  rw [← Bool.not_eq_true, Magnitude.isNaN_iff, Magnitude.place?_eq_none_iff]
  intro hnan
  rw [hnan] at hfinite
  exact Bool.noConfusion hfinite

theorem relation (a b : Value) : Relation a b := by
  have hint : ¬ValueType.int.IsUnordered := by simp [ValueType.IsUnordered]
  have hfloat : ¬ValueType.float.IsUnordered := by simp [ValueType.IsUnordered]
  cases a with
  | bool x =>
    cases b with
    | bool y =>
      refine .equal (x == y) rfl (.inl rfl) (fun op => rfl) (fun op => ?_) (fun h => ?_) rfl
      · rw [Bool.beq_comm]
        rfl
      · exact beq_iff_eq.2 (Value.bool.inj h)
    | int | float | string | entity =>
      exact .apart (by simp [ValueType.Meets, type]) (fun op => rfl) fun op => rfl
  | int i =>
    cases b with
    | int j =>
      refine .ordered _ (.inl rfl) hint (fun op => rfl) (fun op => ?_) (by simp [isNaN])
      rw [Option.map_some, ← Std.OrientedOrd.eq_swap]
      rfl
    | float y =>
      exact relation_of_float (.inr (.inl ⟨rfl, rfl⟩)) hint (fun op => rfl) (fun op => rfl)
        (by rw [isNaN_nearestFloat]; rfl)
    | bool | string | entity =>
      exact .apart (by simp [ValueType.Meets, type]) (fun op => rfl) fun op => rfl
  | float x =>
    cases b with
    | int j =>
      exact relation_of_float (.inr (.inr ⟨rfl, rfl⟩)) hfloat (fun op => rfl) (fun op => rfl)
        (by rw [isNaN_nearestFloat]; rfl)
    | float y => exact relation_of_float (.inl rfl) hfloat (fun op => rfl) (fun op => rfl) rfl
    | bool | string | entity =>
      exact .apart (by simp [ValueType.Meets, type]) (fun op => rfl) fun op => rfl
  | string s =>
    cases b with
    | string t =>
      have hstring : ¬ValueType.string.IsUnordered := by simp [ValueType.IsUnordered]
      refine .ordered _ (.inl rfl) hstring (fun op => rfl) (fun op => ?_) (by simp [isNaN])
      rw [Option.map_some, ← orderText_swap]
      rfl
    | bool | int | float | entity =>
      exact .apart (by simp [ValueType.Meets, type]) (fun op => rfl) fun op => rfl
  | entity id =>
    cases b with
    | entity id' =>
      refine .equal (id == id') rfl (.inr rfl) (fun op => rfl) (fun op => ?_) (fun h => ?_) rfl
      · rw [BEq.comm]
        rfl
      · exact beq_iff_eq.2 (Value.entity.inj h)
    | bool | int | float | string =>
      exact .apart (by simp [ValueType.Meets, type]) (fun op => rfl) fun op => rfl

/-! ### The laws -/

theorem compare_mirrored (a b : Value) (op : Comparison) :
    b.compare op.mirrored a = (a.compare op b).mapError ComparisonFault.mirrored := by
  cases relation a b with
  | ordered o _ _ hcompare hback =>
    rw [hcompare, hback, Comparison.holds_mirrored]
    rfl
  | equal same _ _ hcompare hback =>
    rw [hcompare, hback]
    cases op <;> rfl
  | apart _ hcompare hback =>
    rw [hcompare, hback]
    rfl

theorem compare_ne (a b : Value) : a.compare .ne b = (a.compare .eq b).map (!·) := by
  cases relation a b with
  | ordered o _ _ hcompare =>
    rw [hcompare, hcompare, Comparison.holds_ne]
    rfl
  | equal same _ _ hcompare =>
    rw [hcompare, hcompare]
    rfl
  | apart _ hcompare =>
    rw [hcompare, hcompare]
    rfl

/-- Of two values that have an order, one of three holds, or none where one is not a number. -/
theorem exists_order {a b : Value} {less : Bool} (hless : a.compare .lt b = .ok less) :
    ∃ equal greater, a.compare .eq b = .ok equal ∧ a.compare .gt b = .ok greater ∧
      a.compare .le b = .ok (less || equal) ∧ a.compare .ge b = .ok (greater || equal) ∧
      [less, equal, greater].count true = if a.isNaN || b.isNaN then 0 else 1 := by
  cases relation a b with
  | ordered o _ _ hcompare _ hnone =>
    rw [hcompare, Except.ok.injEq] at hless
    refine ⟨_, _, hcompare .eq, hcompare .gt, ?_⟩
    rw [hcompare, hcompare, ← hless]
    cases o with
    | none =>
      rw [if_pos (hnone.1 rfl)]
      exact ⟨rfl, rfl, rfl⟩
    | some o =>
      rw [if_neg (fun hnan => nomatch hnone.2 hnan)]
      cases o <;> exact ⟨rfl, rfl, rfl⟩
  | equal same _ _ hcompare =>
    rw [hcompare] at hless
    cases hless
  | apart _ hcompare =>
    rw [hcompare] at hless
    cases hless

theorem compare_self (a : Value) : a.compare .eq a = .ok (!a.isNaN) := by
  cases relation a a with
  | ordered o _ _ hcompare hback hnone =>
    -- The order is its own mirror image, so it is none or that of equals.
    have hsame : Comparison.lt.holds o = Comparison.lt.holds (o.map .swap) := by
      have hboth := (hcompare .lt).symm.trans (hback .lt)
      exact Except.ok.inj hboth
    rw [hcompare]
    rw [Bool.or_self] at hnone
    cases o with
    | none =>
      rw [hnone.1 rfl]
      rfl
    | some o =>
      have hnumber : a.isNaN = false := by
        rw [← Bool.not_eq_true]
        exact fun hnan => nomatch hnone.2 hnan
      rw [hnumber]
      cases o with
      | eq => rfl
      | lt => simp [Comparison.holds] at hsame
      | gt => simp [Comparison.holds] at hsame
  | equal same _ _ hcompare _ hself hnumber =>
    rw [hcompare, hself rfl, hnumber]
    rfl
  | apart hapart => exact absurd (.inl rfl) hapart

theorem compare_error_iff {a b : Value} {op : Comparison} {fault : ComparisonFault} :
    a.compare op b = .error fault ↔
      ¬a.type.Meets b.type ∧ fault = .incomparable a.type b.type ∨
      op.IsOrdering ∧ a.type = b.type ∧ a.type.IsUnordered ∧
        fault = .unsupported op a.type b.type := by
  cases relation a b with
  | ordered o hmeets hordered hcompare =>
    rw [hcompare]
    simp [hmeets, hordered]
  | equal same htype hunordered hcompare =>
    have hmeets : a.type.Meets b.type := .inl htype
    rw [hcompare, ← htype] at *
    cases op <;> simp [compareEqual, Comparison.IsOrdering, hmeets, hunordered, eq_comm]
  | apart hapart hcompare =>
    have htype : a.type ≠ b.type := fun h => hapart (.inl h)
    rw [hcompare]
    simp [hapart, htype, eq_comm]

/-- **Comparison is one order, read in six ways.** -/
theorem comparison_is_lawful (a b : Value) (op : Comparison) :
    b.compare op.mirrored a = (a.compare op b).mapError ComparisonFault.mirrored ∧
    a.compare .ne b = (a.compare .eq b).map (!·) ∧
    (∀ less, a.compare .lt b = .ok less →
      ∃ equal greater, a.compare .eq b = .ok equal ∧ a.compare .gt b = .ok greater ∧
        a.compare .le b = .ok (less || equal) ∧ a.compare .ge b = .ok (greater || equal) ∧
        [less, equal, greater].count true = if a.isNaN || b.isNaN then 0 else 1) ∧
    a.compare .eq a = .ok (!a.isNaN) ∧
    ∀ fault, a.compare op b = .error fault ↔
      ¬a.type.Meets b.type ∧ fault = .incomparable a.type b.type ∨
      op.IsOrdering ∧ a.type = b.type ∧ a.type.IsUnordered ∧
        fault = .unsupported op a.type b.type :=
  ⟨compare_mirrored a b op, compare_ne a b, fun _ => exists_order, compare_self a,
    fun _ => compare_error_iff⟩

end Value

end ActionGraph
