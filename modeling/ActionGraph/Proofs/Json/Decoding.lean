import ActionGraph.Proofs.Json.Values

/-!
# What decoders read

A reading stands for the finished value that `anyValue` makes of it, be it a value walked like a
text or a text without faults. A decoder reads a value as a result if it comes to that result on
every reading that stands for the value (`Decoder.Reads`). What is shown of a decoder in this way
holds of finished values and of text alike.
-/

namespace ActionGraph.Json

variable {α σ : Type} {origin : Origin} {r : Reading} {value : Json}

/-! ### Readings of a value -/

/-- The readings that stand for a value. -/
inductive StandsFor (origin : Origin) : Reading → Json → Prop where
  | null : StandsFor origin .null .null
  | bool (b : Bool) : StandsFor origin (.bool b) (.bool b)
  | number (n : Number) : StandsFor origin (.number (.ok n)) (.number n)
  | string (s : String) : StandsFor origin (.string (.ok s)) (.string s)
  | array {inner : Origin} {readings : List Reading} {items : List Json}
    (hinner : origin.enter = .ok inner) (hitems : anyItems inner readings = .ok items) :
    StandsFor origin (.array readings none) (.array items)
  | object {inner : Origin} {readings : List (Except SyntaxError String × Reading)}
    {members : Members} (hinner : origin.enter = .ok inner)
    (hmembers : anyMembers inner readings = .ok members) :
    StandsFor origin (.object readings none) (.object members)

theorem endOf_eq_ok {fault : Option SyntaxError} {u : Unit} (h : endOf fault = .ok u) :
    fault = none := by
  cases fault with
  | none => rfl
  | some e => exact nomatch h

theorem standsFor_of_anyValue (h : anyValue origin r = .ok value) : StandsFor origin r value := by
  cases r with
  | null =>
    cases h
    exact .null
  | bool b =>
    cases h
    exact .bool b
  | number n =>
    cases n with
    | ok n =>
      cases h
      exact .number n
    | error e => exact nomatch h
  | string s =>
    cases s with
    | ok s =>
      cases h
      exact .string s
    | error e => exact nomatch h
  | array readings fault =>
    simp only [anyValue, bind_eq_ok_iff] at h
    obtain ⟨inner, hinner, items, hitems, _, hend, h⟩ := h
    cases h
    rw [endOf_eq_ok hend]
    exact .array hinner hitems
  | object readings fault =>
    simp only [anyValue, bind_eq_ok_iff] at h
    obtain ⟨inner, hinner, members, hmembers, _, hend, h⟩ := h
    cases h
    rw [endOf_eq_ok hend]
    exact .object hinner hmembers
  | cut fault => exact nomatch h

theorem anyItems_cons {item : Json} {rest : List Json} {readings : List Reading}
    (h : anyItems origin readings = .ok (item :: rest)) :
    ∃ r others, readings = r :: others ∧ anyValue origin r = .ok item ∧
      anyItems origin others = .ok rest := by
  cases readings with
  | nil => exact nomatch h
  | cons r others =>
    simp only [anyItems, bind_eq_ok_iff] at h
    obtain ⟨item', hitem, rest', hrest, h⟩ := h
    cases h
    exact ⟨r, others, rfl, hitem, hrest⟩

theorem anyItems_nil {readings : List Reading} (h : anyItems origin readings = .ok []) :
    readings = [] := by
  cases readings with
  | nil => rfl
  | cons r others =>
    simp only [anyItems, bind_eq_ok_iff] at h
    obtain ⟨item', hitem, rest', hrest, h⟩ := h
    exact nomatch h

theorem anyMembers_cons {name : String} {rest : Members}
    {readings : List (Except SyntaxError String × Reading)}
    (h : anyMembers origin readings = .ok ((name, value) :: rest)) :
    ∃ r others, readings = (.ok name, r) :: others ∧ anyValue origin r = .ok value ∧
      anyMembers origin others = .ok rest := by
  cases readings with
  | nil => exact nomatch h
  | cons first others =>
    obtain ⟨kept?, r⟩ := first
    cases kept? with
    | error e => exact nomatch h
    | ok name' =>
      simp only [anyMembers, kept, ok_bind, bind_eq_ok_iff] at h
      obtain ⟨value', hvalue, rest', hrest, h⟩ := h
      cases h
      exact ⟨r, others, rfl, hvalue, hrest⟩

theorem anyMembers_nil {readings : List (Except SyntaxError String × Reading)}
    (h : anyMembers origin readings = .ok []) : readings = [] := by
  cases readings with
  | nil => rfl
  | cons first others =>
    obtain ⟨kept?, r⟩ := first
    simp only [anyMembers, bind_eq_ok_iff] at h
    obtain ⟨name', hname, value', hvalue, rest', hrest, h⟩ := h
    exact nomatch h

/-! ### Decoders -/

/-- On every reading of the value the decoder comes to this result. -/
def Decoder.Reads (d : Decoder α) (value : Json) (a : α) : Prop :=
  ∀ origin r, anyValue origin r = .ok value → d origin r = .ok a

namespace Decoder

variable {d : Decoder α} {a : α}

theorem Reads.decodeValue (h : d.Reads value a) : decodeValue d value = .ok a :=
  h .value _ (anyValue_ofJson value)

/-- A text that is a value is decoded like the value. -/
theorem Reads.decodeText (h : d.Reads value a) {text : String}
    (htext : decodeText anyValue text = .ok value) : decodeText d text = .ok a := by
  simp only [Json.decodeText, bind_eq_ok_iff] at htext ⊢
  obtain ⟨value', hroot, hrest⟩ := htext
  split at hrest
  · exact nomatch hrest
  · rename_i hend
    cases hrest
    exact ⟨a, h _ _ hroot, if_neg hend⟩

theorem string_reads (s : String) : Decoder.string.Reads (.string s) s := by
  intro origin r h
  cases standsFor_of_anyValue h
  rfl

theorem boolean_reads (b : Bool) : Decoder.boolean.Reads (.bool b) b := by
  intro origin r h
  cases standsFor_of_anyValue h
  rfl

theorem sorted_reads (value : Json) : Decoder.sorted.Reads value value.sorted := by
  intro origin r h
  rw [Decoder.sorted, h]
  rfl

theorem optional_reads_ofOption (s? : Option String) :
    Decoder.string.optional.Reads (Json.ofOption s?) s? := by
  intro origin r h
  cases s? with
  | none =>
    cases standsFor_of_anyValue h
    rfl
  | some s =>
    cases standsFor_of_anyValue h
    rfl

theorem items_eq {write : α → Json} {as : List α} {readings : List Reading}
    (h : ∀ a ∈ as, d.Reads (write a) a) (hread : anyItems origin readings = .ok (as.map write)) :
    Decoder.items d origin readings = .ok as := by
  induction as generalizing readings with
  | nil =>
    rw [anyItems_nil hread]
    rfl
  | cons a rest ih =>
    obtain ⟨hfirst, hothers⟩ := List.forall_mem_cons.1 h
    obtain ⟨r, others, rfl, hr, hrest⟩ := anyItems_cons hread
    rw [Decoder.items, hfirst _ _ hr, ok_bind, ih hothers hrest]
    rfl

theorem list_reads {write : α → Json} {as : List α} (h : ∀ a ∈ as, d.Reads (write a) a) :
    d.list.Reads (.array (as.map write)) as := by
  intro origin r hr
  cases standsFor_of_anyValue hr with
  | array hinner hitems =>
    simp only [Decoder.list, hinner, ok_bind, items_eq h hitems, endOf]
    rfl

theorem entries_eq {add : σ → String → α → σ} {write : α → Json} {entries : List (String × α)}
    {readings : List (Except SyntaxError String × Reading)} (state : σ)
    (h : ∀ entry ∈ entries, d.Reads (write entry.2) entry.2)
    (hread : anyMembers origin readings
      = .ok (entries.map fun (name, a) => (name, write a))) :
    Decoder.entries d add origin state readings
      = .ok (entries.foldl (fun state (name, a) => add state name a) state) := by
  induction entries generalizing readings state with
  | nil =>
    rw [anyMembers_nil hread]
    rfl
  | cons entry rest ih =>
    obtain ⟨name, a⟩ := entry
    obtain ⟨hfirst, hothers⟩ := List.forall_mem_cons.1 h
    obtain ⟨r, others, rfl, hr, hrest⟩ := anyMembers_cons hread
    rw [Decoder.entries, kept, ok_bind, hfirst _ _ hr, ok_bind, ih _ hothers hrest]
    rfl

theorem table_reads {add : σ → String → α → σ} {empty : σ} {write : α → Json}
    {entries : List (String × α)} (h : ∀ entry ∈ entries, d.Reads (write entry.2) entry.2) :
    (d.table add empty).Reads (.object (entries.map fun (name, a) => (name, write a)))
      (entries.foldl (fun state (name, a) => add state name a) empty) := by
  intro origin r hr
  cases standsFor_of_anyValue hr with
  | object hinner hmembers =>
    simp only [Decoder.table, hinner, ok_bind, entries_eq empty h hmembers, endOf]
    rfl

end Decoder

/-! ### Records -/

namespace Record

variable {k : Record σ} {record : σ} {seen : List String}

/-- On every reading of the members the record comes to be the final one. -/
def Takes (k : Record σ) (seen : List String) (record : σ) (members : Members)
    (result : List String × σ) : Prop :=
  ∀ origin readings, anyMembers origin readings = .ok members →
    k.setMembers origin seen record readings = .ok result

theorem takes_nil : k.Takes seen record [] (seen, record) := by
  intro origin readings hread
  rw [anyMembers_nil hread]
  rfl

/-- A member that is written for a field sets the field. -/
theorem takes_cons {name : String} {required : Bool} {d : Decoder α} {put : α → σ → σ} {a : α}
    {rest : Members} {result : List String × σ}
    (hfield : k.fields.find? (·.name == name) = some (Field.of name required d put))
    (hseen : name ∉ seen) (hread : d.Reads value a)
    (hrest : k.Takes (name :: seen) (put a record) rest result) :
    k.Takes seen record ((name, value) :: rest) result := by
  intro origin readings hmembers
  obtain ⟨r, others, rfl, hr, hothers⟩ := anyMembers_cons hmembers
  have hset : (Field.of name required d put).set origin r record = .ok (put a record) := by
    change (d origin r).map (put · record) = _
    rw [hread origin r hr]
    rfl
  rw [setMembers, kept, ok_bind]
  simp only [hfield, if_neg hseen, hset, ok_bind]
  exact hrest origin others hothers

theorem decoder_reads {members : Members} (htakes : k.Takes [] k.initial members (seen, record))
    (hseen : k.checkSeen seen = .ok ()) : k.decoder.Reads (.object members) record := by
  intro origin r hr
  cases standsFor_of_anyValue hr with
  | object hinner hmembers =>
    simp only [decoder, hinner, ok_bind, htakes _ _ hmembers, endOf, hseen]
    rfl

end Record

end ActionGraph.Json
