import ActionGraph.Json.Decoder
import ActionGraph.Proofs.Except

/-!
# Values that vary in one place

Two values that are the same but for one place are decoded alike if what is decoded in that place is
of no account. What is of account is what a function shows of the result, and two results are the
same up to that function if both are errors, then the same, or it shows the same of both. For a list
this comes from its items, for a record from what each field does to records that look the same.
-/

namespace ActionGraph.Json

variable {α β γ δ σ τ : Type}

/-! ### Results that are the same as far as a function shows -/

def SameUpTo (f : α → β) (x y : Except DecodeError α) : Prop := x.map f = y.map f

namespace SameUpTo

variable {f : α → β} {x y : Except DecodeError α}

theorem refl (f : α → β) (x : Except DecodeError α) : SameUpTo f x x := rfl

theorem symm (h : SameUpTo f x y) : SameUpTo f y x := Eq.symm h

theorem cases (h : SameUpTo f x y) :
    (∃ a b, x = .ok a ∧ y = .ok b ∧ f a = f b) ∨ ∃ e, x = .error e ∧ y = .error e := by
  cases x with
  | ok a =>
    cases y with
    | ok b => exact .inl ⟨a, b, rfl, rfl, Except.ok.inj h⟩
    | error e => cases h
  | error e =>
    cases y with
    | ok b => cases h
    | error e' =>
      cases h
      exact .inr ⟨e, rfl, rfl⟩

theorem bind (h : SameUpTo f x y) {g : γ → δ} {k l : α → Except DecodeError γ}
    (hnext : ∀ a b, f a = f b → SameUpTo g (k a) (l b)) : SameUpTo g (x >>= k) (y >>= l) := by
  obtain ⟨a, b, rfl, rfl, hab⟩ | ⟨e, rfl, rfl⟩ := h.cases
  · exact hnext a b hab
  · rfl

theorem map (h : SameUpTo f x y) {g : γ → δ} {k l : α → γ}
    (hnext : ∀ a b, f a = f b → g (k a) = g (l b)) : SameUpTo g (x.map k) (y.map l) := by
  obtain ⟨a, b, rfl, rfl, hab⟩ | ⟨e, rfl, rfl⟩ := h.cases
  · exact congrArg Except.ok (hnext a b hab)
  · rfl

/-- The first step is the same. -/
theorem bind_left (x : Except DecodeError α) {g : γ → δ} {k l : α → Except DecodeError γ}
    (hnext : ∀ a, SameUpTo g (k a) (l a)) : SameUpTo g (x >>= k) (x >>= l) := by
  cases x with
  | ok a => exact hnext a
  | error e => rfl

theorem exists_ok_iff (h : SameUpTo f x y) : (∃ a, x = .ok a) ↔ ∃ b, y = .ok b := by
  obtain ⟨a, b, rfl, rfl, -⟩ | ⟨e, rfl, rfl⟩ := h.cases
  · exact iff_of_true ⟨a, rfl⟩ ⟨b, rfl⟩
  · exact Iff.rfl

end SameUpTo

/-! ### Values with one place -/

variable {R : Json → Json → Prop} {f : α → β} {d : Decoder α}

/-- Two arrays that are the same but for one item. -/
inductive VaryInItem (R : Json → Json → Prop) : Json → Json → Prop
  | intro {v w : Json} (before behind : List Json) (h : R v w) :
    VaryInItem R (.array (before ++ v :: behind)) (.array (before ++ w :: behind))

/-- Two records, in either form, that are the same but for the field with this name and index. -/
inductive VaryInField (name : String) (index : Nat) (R : Json → Json → Prop) : Json → Json → Prop
  | member {v w : Json} (before behind : Members) (h : R v w) :
    VaryInField name index R (.object (before ++ (name, v) :: behind))
      (.object (before ++ (name, w) :: behind))
  | item {v w : Json} (before behind : List Json) (hindex : before.length = index) (h : R v w) :
    VaryInField name index R (.array (before ++ v :: behind)) (.array (before ++ w :: behind))

/-- Values that are related are decoded to what is the same as far as the function shows. -/
def Decoder.Respects (d : Decoder α) (R : Json → Json → Prop) (f : α → β) : Prop :=
  ∀ v w, R v w → SameUpTo f (decodeValue d v) (decodeValue d w)

theorem Decoder.respects_eq (d : Decoder α) : d.Respects Eq id := by
  intro v w h
  rw [h]
  exact .refl id _

theorem Decoder.Respects.list (h : d.Respects R f) :
    d.list.Respects (VaryInItem R) (List.map f) := by
  rintro _ _ ⟨before, behind, hvary⟩
  rename_i v w
  have hitems : SameUpTo (List.map f)
      (Decoder.items d .value (Reading.ofItems (before ++ v :: behind)))
      (Decoder.items d .value (Reading.ofItems (before ++ w :: behind))) := by
    induction before with
    | nil =>
      apply (h v w hvary).bind
      intro a b hab
      apply SameUpTo.bind_left
      intro rest
      change Except.ok (f a :: rest.map f) = Except.ok (f b :: rest.map f)
      rw [hab]
    | cons item rest ih =>
      apply SameUpTo.bind_left
      intro a
      apply ih.bind
      intro others others' hothers
      change Except.ok (f a :: others.map f) = Except.ok (f a :: others'.map f)
      rw [hothers]
  apply hitems.bind
  intro as bs hsame
  exact congrArg Except.ok hsame

/-! ### Records -/

/-- Set to related values, the field leaves records that look the same looking the same. -/
def Field.Respects (field : Field σ) (R : Json → Json → Prop) (f : σ → τ) : Prop :=
  ∀ v w, R v w → ∀ s t, f s = f t →
    SameUpTo f (field.set .value (Reading.ofJson v) s) (field.set .value (Reading.ofJson w) t)

theorem Field.respects_of {name : String} {required : Bool} {put : α → σ → σ} {g : σ → τ}
    (h : d.Respects R f) (hput : ∀ a b s t, f a = f b → g s = g t → g (put a s) = g (put b t)) :
    (Field.of name required d put).Respects R g := by
  intro v w hvary s t hst
  change SameUpTo g ((decodeValue d v).map (put · s)) ((decodeValue d w).map (put · t))
  apply (h v w hvary).map
  exact fun a b hab => hput a b s t hab hst

theorem length_ofItems (items : List Json) : (Reading.ofItems items).length = items.length := by
  induction items with
  | nil => rfl
  | cons item rest ih => rw [Reading.ofItems, List.length_cons, List.length_cons, ih]

namespace Record

variable {k : Record σ} {g : σ → τ}

theorem setMembers_respects (h : ∀ field ∈ k.fields, field.Respects Eq g) (members : Members)
    (seen : List String) {s t : σ} (hst : g s = g t) : SameUpTo (Prod.map id g)
      (k.setMembers .value seen s (Reading.ofMembers members))
      (k.setMembers .value seen t (Reading.ofMembers members)) := by
  induction members generalizing seen s t with
  | nil => exact congrArg (fun look => Except.ok (seen, look)) hst
  | cons entry rest ih =>
    obtain ⟨name, value⟩ := entry
    simp only [Reading.ofMembers, setMembers, kept, ok_bind]
    split
    · exact .bind_left _ fun _ => ih seen hst
    · rename_i field hfield
      split
      · exact .refl _ _
      · apply (h field (List.mem_of_find?_eq_some hfield) value value rfl s t hst).bind
        exact fun _ _ hnext => ih (name :: seen) hnext

/-- Where the two values part, the field is set to related values; before, the records are the same,
and behind, they look the same. -/
theorem setMembers_vary (h : ∀ field ∈ k.fields, field.Respects Eq g) {name : String}
    {field : Field σ} (hfield : k.fields.find? (·.name == name) = some field)
    (hvary : field.Respects R g) {v w : Json} (hvw : R v w) (before behind : Members)
    (seen : List String) (s : σ) : SameUpTo (Prod.map id g)
      (k.setMembers .value seen s (Reading.ofMembers (before ++ (name, v) :: behind)))
      (k.setMembers .value seen s (Reading.ofMembers (before ++ (name, w) :: behind))) := by
  induction before generalizing seen s with
  | nil =>
    simp only [List.nil_append, Reading.ofMembers, setMembers, kept, ok_bind, hfield]
    split
    · exact .refl _ _
    · apply (hvary v w hvw s s rfl).bind
      exact fun _ _ hnext => setMembers_respects h behind (name :: seen) hnext
  | cons entry rest ih =>
    obtain ⟨other, value⟩ := entry
    simp only [List.cons_append, Reading.ofMembers, setMembers, kept, ok_bind]
    split
    · exact .bind_left _ fun _ => ih seen s
    · split
      · exact .refl _ _
      · exact .bind_left _ fun next => ih (other :: seen) next

theorem setItems_respects {fields : List (Field σ)} (h : ∀ field ∈ fields, field.Respects Eq g)
    (index : Nat) (items : List Json) {s t : σ} (hst : g s = g t) : SameUpTo (Prod.map id g)
      (k.setItems .value none index fields (Reading.ofItems items) s)
      (k.setItems .value none index fields (Reading.ofItems items) t) := by
  induction fields generalizing index items s t with
  | nil => exact congrArg (fun look => Except.ok (Reading.ofItems items, look)) hst
  | cons field fields ih =>
    obtain ⟨hfield, hfields⟩ := List.forall_mem_cons.1 h
    cases items with
    | nil =>
      simp only [Reading.ofItems, setItems, endOf, ok_bind]
      split
      · exact .refl _ _
      · exact ih hfields (index + 1) [] hst
    | cons item rest =>
      apply (hfield item item rfl s t hst).bind
      exact fun _ _ hnext => ih hfields (index + 1) rest hnext

theorem setItems_vary {fields : List (Field σ)} (h : ∀ field ∈ fields, field.Respects Eq g)
    {field : Field σ} (hvary : field.Respects R g) {v w : Json} (hvw : R v w)
    (before behind : List Json) (hfield : fields[before.length]? = some field) (index : Nat)
    (s : σ) : SameUpTo (Prod.map id g)
      (k.setItems .value none index fields (Reading.ofItems (before ++ v :: behind)) s)
      (k.setItems .value none index fields (Reading.ofItems (before ++ w :: behind)) s) := by
  induction before generalizing fields index s with
  | nil =>
    cases fields with
    | nil => exact nomatch hfield
    | cons first fields =>
      cases hfield
      apply (hvary v w hvw s s rfl).bind
      exact fun _ _ hnext =>
        setItems_respects (List.forall_mem_cons.1 h).2 (index + 1) behind hnext
  | cons item rest ih =>
    cases fields with
    | nil => exact nomatch hfield
    | cons first fields =>
      apply SameUpTo.bind_left
      exact fun next => ih (List.forall_mem_cons.1 h).2 hfield (index + 1) next

/-- Records that vary in one field are decoded to what looks the same, if the other fields do not
tell apart what looks the same, and that one hides what varies. -/
theorem decoder_respects (h : ∀ field ∈ k.fields, field.Respects Eq g) {name : String}
    {index : Nat} {field : Field σ} (hname : k.fields.find? (·.name == name) = some field)
    (hindex : k.fields[index]? = some field) (hvary : field.Respects R g) :
    k.decoder.Respects (VaryInField name index R) g := by
  rintro _ _ (⟨before, behind, hvw⟩ | ⟨before, behind, rfl, hvw⟩)
  · apply (setMembers_vary h hname hvary hvw before behind [] k.initial).bind
    rintro ⟨seen, s⟩ ⟨seen', t⟩ hsame
    obtain ⟨rfl, hst⟩ : seen = seen' ∧ g s = g t := Prod.mk.inj hsame
    apply SameUpTo.bind_left
    intro _
    apply SameUpTo.bind_left
    exact fun _ => congrArg Except.ok hst
  · apply (setItems_vary h hvary hvw before behind hindex 0 k.initial).bind
    rintro ⟨left, s⟩ ⟨left', t⟩ hsame
    obtain ⟨rfl, hst⟩ : left = left' ∧ g s = g t := Prod.mk.inj hsame
    rw [length_ofItems, length_ofItems, List.length_append, List.length_append, List.length_cons,
      List.length_cons]
    apply SameUpTo.bind_left
    exact fun _ => congrArg Except.ok hst

end Record

end ActionGraph.Json
