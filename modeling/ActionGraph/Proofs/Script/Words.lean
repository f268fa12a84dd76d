import ActionGraph.Naming
import ActionGraph.Script.Token
import Mathlib

/-!
# The words of scripts

A variable of an asset may be named with the letters and numerals of every script; a word of a
script has only the plain ones. So the text of a name is one word, or it breaks off at the first
other letter, which starts no token (`tokens_of_isIdentifier`).
-/

namespace ActionGraph

/-! ### Characters -/

namespace Text

theorem CharClass.contains_nil (c : Char) : CharClass.contains ⟨[]⟩ c = false := rfl

/-- A class is its first run and the class of what comes behind it. -/
theorem CharClass.contains_cons_cons (first last : Nat) (edges : List Nat) (c : Char) :
    CharClass.contains ⟨first :: last :: edges⟩ c = true
      ↔ first ≤ c.toNat ∧ (c.toNat < last ∨ CharClass.contains ⟨edges⟩ c = true) := by
  simp only [CharClass.contains, List.takeWhile_cons]
  by_cases hfirst : first ≤ c.toNat
  · by_cases hlast : last ≤ c.toNat
    · simp only [hfirst, hlast, decide_true, if_true, List.length_cons, beq_iff_eq, true_and,
        Nat.not_lt.2 hlast, false_or]
      omega
    · simp [hfirst, hlast, Nat.lt_of_not_le hlast]
  · simp [hfirst]

/-- The code points of the blanks. -/
def blankCodes : List Nat :=
  [9, 10, 11, 12, 13, 32, 133, 160, 5760, 8192, 8193, 8194, 8195, 8196, 8197, 8198, 8199, 8200,
    8201, 8202, 8232, 8233, 8239, 8287, 12288]

theorem toNat_mem_blankCodes {c : Char} (h : isBlank c = true) : c.toNat ∈ blankCodes := by
  simp only [isBlank, blanks, CharClass.contains_cons_cons, CharClass.contains_nil,
    Bool.false_eq_true, or_false] at h
  simp only [blankCodes, List.mem_cons, List.not_mem_nil, or_false]
  omega

end Text

namespace Naming

/-- Whether a character can stand in a name behind its first character. -/
def isNameChar (c : Char) : Bool := isWordChar c || c == '_'

theorem isBlank_of_isNameChar {c : Char} (h : isNameChar c = true) : Text.isBlank c = false := by
  have hcodes : ∀ n ∈ Text.blankCodes, isNameChar (Char.ofNat n) = false := by decide +kernel
  rw [Bool.eq_false_iff]
  intro hblank
  have hc := hcodes c.toNat (Text.toNat_mem_blankCodes hblank)
  rw [Char.ofNat_toNat, h] at hc
  exact nomatch hc

/-- What is checked for the plain code points holds of the plain characters. -/
theorem of_toNat_lt {P : Char → Prop} (h : ∀ n < 128, P (Char.ofNat n)) {c : Char}
    (hc : c.toNat < 128) : P c := by
  have hn := h c.toNat hc
  rwa [Char.ofNat_toNat] at hn

/-- Among the plain characters, names and words of scripts have the same ones. -/
theorem continuesName_of_isNameChar {c : Char} (hc : c.toNat < 128) :
    isNameChar c = true → Script.continuesName c = true :=
  of_toNat_lt (P := fun c => isNameChar c = true → Script.continuesName c = true)
    (by decide +kernel) hc

theorem startsName_of_isLetter {c : Char} (hc : c.toNat < 128) :
    (Text.isLetter c || c == '_') = true → Script.startsName c = true :=
  of_toNat_lt (P := fun c => (Text.isLetter c || c == '_') = true → Script.startsName c = true)
    (by decide +kernel) hc

end Naming

namespace Script

theorem toNat_lt_of_continuesName {c : Char} (h : continuesName c = true) : c.toNat < 128 := by
  simp only [continuesName, Char.isAlphanum, Char.isAlpha, Char.isUpper, Char.isLower,
    Char.isDigit, Bool.or_eq_true, Bool.and_eq_true, decide_eq_true_eq, beq_iff_eq,
    ge_iff_le, UInt32.le_iff_toNat_le] at h
  rcases h with (((h | h) | h) | rfl)
  · exact Nat.lt_of_le_of_lt h.2 (by decide)
  · exact Nat.lt_of_le_of_lt h.2 (by decide)
  · exact Nat.lt_of_le_of_lt h.2 (by decide)
  · decide

/-! ### Words -/

/-- A word that a script reads as the name of a variable. -/
structure IsName (name : String) : Prop where
  continuesName : ∀ c ∈ name.toList, continuesName c = true
  isProperName : isProperName name.toList = true
  notMem_keywords : name ∉ keywords
  notMem_reservedWords : name ∉ reservedWords

/-- What a word can be read as. -/
inductive IsWord (word : String) : Token → Prop where
  | name (h : IsName word) : IsWord word (.name word)
  | keyword (h : word ∈ keywords) : IsWord word (.keyword word)
  | reserved (h : word ∈ reservedWords) : IsWord word (.reserved word)
  | underscore (h : word = "_") : IsWord word (.symbol word)

theorem isWord_scanWord (cs : List Char) :
    IsWord (String.ofList (cs.takeWhile continuesName)) (scanWord cs).1 ∨
      ∃ fault, (scanWord cs).1 = .bad fault := by
  rw [scanWord]
  dsimp only
  split
  · rename_i hs
    exact .inl (.keyword (List.contains_iff_mem.1 hs))
  · rename_i hkeyword
    split
    · rename_i hs
      exact .inl (.reserved (List.contains_iff_mem.1 hs))
    · rename_i hreserved
      split
      · rename_i hs
        exact .inl (.underscore (beq_iff_eq.1 hs))
      · split
        · rename_i hproper
          refine .inl (.name ⟨?_, ?_, ?_, ?_⟩)
          · intro c hc
            rw [String.toList_ofList] at hc
            exact List.mem_takeWhile_imp hc
          · rw [String.toList_ofList]
            exact hproper
          · exact fun hmem => hkeyword (List.contains_iff_mem.2 hmem)
          · exact fun hmem => hreserved (List.contains_iff_mem.2 hmem)
        · exact .inr ⟨_, rfl⟩

theorem scanWord_of_isName {name : String} (h : IsName name) :
    scanWord name.toList = (.name name, []) := by
  have htake := List.takeWhile_eq_self_iff.2 h.continuesName
  have hdrop := List.dropWhile_eq_nil_iff.2 h.continuesName
  have hunderscore : name ≠ "_" := by
    rintro rfl
    exact absurd h.isProperName (by decide)
  rw [scanWord, htake, hdrop]
  simp [h.notMem_keywords, h.notMem_reservedWords, hunderscore, h.isProperName]

/-! ### From the text to the tokens -/

/-- A word starts neither with a mark nor with a digit. -/
theorem notMark_of_startsName {c : Char} (h : startsName c = true) :
    c ≠ '-' ∧ c ≠ '"' ∧ c ≠ '\'' ∧ c ≠ '/' ∧ c.isDigit = false ∧ Text.isBlank c = false := by
  have hplain : c.toNat < 128 := by
    apply toNat_lt_of_continuesName
    simp only [startsName, continuesName, Char.isAlphanum, Bool.or_eq_true] at h ⊢
    tauto
  exact Naming.of_toNat_lt
    (P := fun c => startsName c = true → c ≠ '-' ∧ c ≠ '"' ∧ c ≠ '\'' ∧ c ≠ '/' ∧
      c.isDigit = false ∧ Text.isBlank c = false) (by decide +kernel) hplain h

section Scanning

variable {c : Char} {rest : List Char} (p : Position) (signed : Bool)

theorem skipBlank_cons (fuel : Nat) (hblank : Text.isBlank c = false) (hslash : c ≠ '/') :
    skipBlank (fuel + 1) p (c :: rest) = (p, c :: rest) := by
  rw [skipBlank, hblank]
  · rfl
  · intro _ h
    exact absurd h hslash
  · intro _ h
    exact absurd h hslash

theorem scanToken_of_startsName (h : startsName c = true) :
    scanToken signed p (c :: rest)
      = ((scanWord (c :: rest)).1, p, (scanWord (c :: rest)).2) := by
  obtain ⟨hminus, hdouble, hsingle, -, hdigit, -⟩ := notMark_of_startsName h
  rw [scanToken]
  · simp [hdouble, hsingle, hdigit, h]
  · intro _ _ hc
    exact absurd hc hminus

theorem ne_of_le_toNat (h : 128 ≤ c.toNat) {d : Char} (hd : d.toNat < 128) : c ≠ d := by
  rintro rfl
  omega

theorem startingMark?_of_le_toNat (h : 128 ≤ c.toNat) {known : List String}
    (hknown : ∀ mark ∈ known, mark.toList.head?.any (·.toNat < 128) = true) :
    startingMark? known (c :: rest) = none := by
  refine List.find?_eq_none.2 ?_
  intro mark hmem hprefix
  obtain ⟨d, hd, hplain⟩ := (Option.any_eq_true _ _).1 (hknown mark hmem)
  obtain ⟨tail, htail⟩ := List.head?_eq_some_iff.1 hd
  rw [htail, List.isPrefixOf_iff_prefix, List.cons_prefix_cons] at hprefix
  exact ne_of_le_toNat h (of_decide_eq_true hplain) hprefix.1.symm

theorem scanMark_of_le_toNat (h : 128 ≤ c.toNat) :
    scanMark (c :: rest) = (.bad (.unexpected (String.ofList [c])), rest) := by
  rw [scanMark, startingMark?_of_le_toNat h (by decide +kernel),
    startingMark?_of_le_toNat h (by decide +kernel)]
  · rfl
  · intro _ hc
    exact absurd (List.cons.inj hc).1 (ne_of_le_toNat h (by decide))

/-- No token starts with a character that is not plain. -/
theorem scanToken_of_le_toNat (h : 128 ≤ c.toNat) :
    scanToken signed p (c :: rest) = (.bad (.unexpected (String.ofList [c])), p, rest) := by
  have hcontinues : continuesName c = false := by
    rw [Bool.eq_false_iff]
    intro hc
    have hplain := toNat_lt_of_continuesName hc
    omega
  simp only [continuesName, Char.isAlphanum, Bool.or_eq_false_iff] at hcontinues
  obtain ⟨⟨halpha, hdigit⟩, hunderscore⟩ := hcontinues
  have hstarts : startsName c = false := by rw [startsName, halpha, hunderscore, Bool.or_self]
  have hdouble : c ≠ '"' := ne_of_le_toNat h (by decide)
  have hsingle : c ≠ '\'' := ne_of_le_toNat h (by decide)
  rw [scanToken]
  · simp [hdouble, hsingle, hdigit, hstarts, scanMark_of_le_toNat h]
  · intro _ _ hc
    exact absurd hc (ne_of_le_toNat h (by decide))

theorem scanTokens_of_isWord {word : String} {token : Token} (fuel : Nat)
    (hstarts : startsName c = true) (hword : IsWord word token)
    (htoken : (scanWord (c :: rest)).1 = token) :
    ∃ q sign, scanTokens (fuel + 1) p signed (c :: rest)
      = (token, p) :: scanTokens fuel q sign ((c :: rest).dropWhile continuesName) := by
  obtain ⟨-, -, -, hslash, -, hblank⟩ := notMark_of_startsName hstarts
  rw [scanTokens, skipBlank_cons _ _ hblank hslash]
  dsimp only
  rw [scanToken_of_startsName _ _ hstarts, htoken]
  cases hword <;> exact ⟨_, _, rfl⟩

theorem scanTokens_of_bad {fault : SyntaxFault} {cs : List Char} (fuel : Nat)
    (hblank : Text.isBlank c = false) (hslash : c ≠ '/')
    (hbad : scanToken signed p (c :: rest) = (.bad fault, p, cs)) :
    scanTokens (fuel + 1) p signed (c :: rest) = [(.bad fault, p)] := by
  rw [scanTokens, skipBlank_cons _ _ hblank hslash]
  dsimp only
  rw [hbad]

end Scanning

/-! ### The tokens of a name -/

theorem startsName_of_isProperName {c : Char} {rest : List Char}
    (h : isProperName (c :: rest) = true) : startsName c = true := by
  by_cases hunderscore : c = '_'
  · rw [hunderscore]
    rfl
  · rw [isProperName, List.dropWhile_cons_of_neg (by simp [hunderscore])] at h
    exact Bool.or_eq_true_iff.2 (.inl h)

theorem tokens_of_isName {name : String} (h : IsName name) :
    ∃ q, tokens name = [(.name name, ⟨1, 1⟩), (.eof, q)] := by
  have hscan := scanWord_of_isName h
  have hproper := h.isProperName
  have hdrop := List.dropWhile_eq_nil_iff.2 h.continuesName
  rw [tokens, ← String.length_toList]
  cases hchars : name.toList with
  | nil =>
    rw [hchars] at hproper
    exact nomatch hproper
  | cons c rest =>
    rw [hchars] at hscan hproper hdrop
    obtain ⟨q, sign, htokens⟩ := scanTokens_of_isWord ⟨1, 1⟩ true (c :: rest).length
      (startsName_of_isProperName hproper) (.name h) (congrArg Prod.fst hscan)
    rw [htokens, hdrop, List.length_cons]
    exact ⟨q, rfl⟩

theorem scanTokens_of_le_toNat {c : Char} {rest : List Char} (p : Position) (signed : Bool)
    (fuel : Nat) (hname : Naming.isNameChar c = true) (h : 128 ≤ c.toNat) :
    scanTokens (fuel + 1) p signed (c :: rest) = [(.bad (.unexpected (String.ofList [c])), p)] :=
  scanTokens_of_bad p signed fuel (Naming.isBlank_of_isNameChar hname)
    (ne_of_le_toNat h (by decide)) (scanToken_of_le_toNat p signed h)

theorem isNameChar_of_isIdentifier {cs : List Char} (h : Naming.isIdentifier cs = true) :
    ∀ d ∈ cs, Naming.isNameChar d = true := by
  cases cs with
  | nil => exact nomatch h
  | cons c rest =>
    rw [Naming.isIdentifier, Bool.and_eq_true, List.all_eq_true] at h
    obtain ⟨hfirst, hrest⟩ := h
    intro d hd
    rcases List.mem_cons.1 hd with rfl | hd
    · simp only [Naming.isNameChar, Naming.isWordChar, Bool.or_eq_true] at hfirst ⊢
      tauto
    · exact hrest d hd

/-- In a name a word breaks off only at a character that is not plain. -/
theorem le_toNat_of_dropWhile {cs more : List Char} {d : Char}
    (hall : ∀ c ∈ cs, Naming.isNameChar c = true)
    (htail : cs.dropWhile continuesName = d :: more) :
    Naming.isNameChar d = true ∧ 128 ≤ d.toNat := by
  have hname : Naming.isNameChar d = true :=
    hall d (List.dropWhile_subset _ (htail ▸ List.mem_cons_self))
  have hstop := List.head?_dropWhile_not continuesName cs
  simp only [htail, List.head?_cons] at hstop
  refine ⟨hname, ?_⟩
  by_contra hsmall
  have hcontinues := Naming.continuesName_of_isNameChar (Nat.lt_of_not_le hsmall) hname
  rw [hstop] at hcontinues
  exact nomatch hcontinues

/-- The name of a variable is one word, or it has a character that starts no token. -/
theorem tokens_of_isIdentifier {name : String} (h : Naming.isIdentifier name.toList = true) :
    (∃ fault p, tokens name = [(.bad fault, p)]) ∨
    (∃ word token fault p q, IsWord word token ∧ tokens name = [(token, p), (.bad fault, q)]) ∨
    ∃ token p q, IsWord name token ∧ tokens name = [(token, p), (.eof, q)] := by
  have hall := isNameChar_of_isIdentifier h
  rw [tokens, ← String.length_toList]
  cases hchars : name.toList with
  | nil =>
    rw [hchars] at h
    exact nomatch h
  | cons c rest =>
    rw [hchars] at h hall
    by_cases hplain : c.toNat < 128
    · have hstarts := Naming.startsName_of_isLetter hplain (Bool.and_eq_true_iff.1 h).1
      rcases isWord_scanWord (c :: rest) with hword | ⟨fault, hbad⟩
      · obtain ⟨q, sign, htokens⟩ :=
          scanTokens_of_isWord ⟨1, 1⟩ true (c :: rest).length hstarts hword rfl
        rw [htokens]
        cases htail : (c :: rest).dropWhile continuesName with
        | nil =>
          have hwhole := List.takeWhile_eq_self_iff.2 (List.dropWhile_eq_nil_iff.1 htail)
          rw [hwhole, ← hchars, String.ofList_toList] at hword
          exact .inr (.inr ⟨_, _, q, hchars ▸ hword, rfl⟩)
        | cons d more =>
          obtain ⟨hname, hlarge⟩ := le_toNat_of_dropWhile hall htail
          rw [List.length_cons, scanTokens_of_le_toNat q sign _ hname hlarge]
          exact .inr (.inl ⟨_, _, _, _, q, hword, rfl⟩)
      · obtain ⟨-, -, -, hslash, -, hblank⟩ := notMark_of_startsName hstarts
        have htoken : scanToken true ⟨1, 1⟩ (c :: rest) = _ :=
          scanToken_of_startsName ⟨1, 1⟩ true hstarts
        rw [hbad] at htoken
        exact .inl ⟨fault, _, scanTokens_of_bad ⟨1, 1⟩ true _ hblank hslash htoken⟩
    · have hlarge := Nat.le_of_not_lt hplain
      exact .inl ⟨_, _, scanTokens_of_le_toNat ⟨1, 1⟩ true _ (hall c List.mem_cons_self) hlarge⟩

end Script

end ActionGraph
