import CodeGraph.Address
import CodeGraph.Proofs.Text.Trimming
import Mathlib.Data.List.Infix

/-!
# Normal addresses

An address is normal if it begins with a scheme and ends in neither white space nor a slash.  These
are the addresses that `baseUrl` leaves as they are.  What `baseUrl` gives begins with a scheme, but
what its slashes hid can be its end: white space before them, or the slashes of the scheme where
there is nothing else.
-/

set_option autoImplicit false

namespace CodeGraph.Address

/-! ## The form of an address -/

def HasScheme (address : List Char) : Prop :=
  "http://".toList <+: address ∨ "https://".toList <+: address

def EndsClean (address : List Char) : Prop :=
  ∀ c ∈ address.getLast?, Text.isBlank c = false ∧ c ≠ '/'

def stripped (address : List Char) : List Char :=
  Text.dropEnd (· = '/') (Text.trimBlank address)

theorem any_schemes_iff {address : List Char} :
    (schemes.any fun scheme => scheme.isPrefixOf address) = true ↔ HasScheme address := by
  simp [schemes, HasScheme]

theorem toList_baseUrl_of_hasScheme {url : String} (hasScheme : HasScheme (stripped url.toList)) :
    (baseUrl url).toList = stripped url.toList := by
  have found := any_schemes_iff.mpr hasScheme
  simp only [stripped] at found
  simp only [baseUrl, found, if_true, stripped, String.toList_ofList]

theorem toList_baseUrl_of_not_hasScheme {url : String}
    (without : ¬ HasScheme (stripped url.toList)) :
    (baseUrl url).toList = "http://".toList ++ stripped url.toList := by
  have missing := mt any_schemes_iff.mp without
  simp only [stripped] at missing
  simp only [baseUrl, missing, Bool.false_eq_true, if_false, stripped, String.toList_ofList]

theorem hasScheme_baseUrl (url : String) : HasScheme (baseUrl url).toList := by
  by_cases hasScheme : HasScheme (stripped url.toList)
  · rwa [toList_baseUrl_of_hasScheme hasScheme]
  · rw [toList_baseUrl_of_not_hasScheme hasScheme]
    exact Or.inl (List.prefix_append _ _)

theorem HasScheme.head? {address : List Char} (hasScheme : HasScheme address) :
    address.head? = some 'h' := by
  rcases hasScheme with ⟨rest, rfl⟩ | ⟨rest, rfl⟩ <;> rfl

theorem HasScheme.front {address : List Char} (hasScheme : HasScheme address) :
    ∀ c ∈ address.head?, Text.isBlank c = false := by
  intro c first
  rw [hasScheme.head?] at first
  cases first
  decide

/-! ## What an address can hide -/

/-- Slashes alone stand between the white space around a text. -/
def IsHollow (text : List Char) : Prop :=
  ∃ before slashes after, text = before ++ slashes ++ after ∧
    (∀ c ∈ before, Text.isBlank c) ∧ (∀ c ∈ slashes, c = '/') ∧ ∀ c ∈ after, Text.isBlank c

/-- White space stands before the slashes at the end of an address, and something before it. -/
def HidesBlank (text : List Char) : Prop :=
  ∃ address blank slashes after, text = address ++ blank :: slashes ++ after ∧
    (∃ c ∈ address, Text.isBlank c = false) ∧ Text.isBlank blank ∧
    slashes ≠ [] ∧ (∀ c ∈ slashes, c = '/') ∧ ∀ c ∈ after, Text.isBlank c

theorem exists_slashes (text : List Char) :
    ∃ slashes, Text.trimBlank text = stripped text ++ slashes ∧ ∀ c ∈ slashes, c = '/' := by
  obtain ⟨slashes, parts, onlySlashes⟩ :=
    Text.exists_dropEnd (· = '/') (Text.trimBlank text)
  exact ⟨slashes, parts, by simpa using onlySlashes⟩

theorem slash_notBlank : Text.isBlank '/' = false := by
  decide

theorem stripped_eq_nil_iff {text : List Char} : stripped text = [] ↔ IsHollow text := by
  constructor
  · intro nothing
    obtain ⟨before, after, parts, blankBefore, blankAfter⟩ := Text.exists_trimBlank text
    refine ⟨before, Text.trimBlank text, after, parts, blankBefore, ?_, blankAfter⟩
    simpa using Text.dropEnd_eq_nil_iff.mp nothing
  · rintro ⟨before, slashes, after, rfl, blankBefore, onlySlashes, blankAfter⟩
    have notBlank : ∀ c ∈ slashes, Text.isBlank c = false := by
      intro c member
      rw [onlySlashes c member, slash_notBlank]
    have trimmed : Text.trimBlank slashes = slashes :=
      Text.trimBlank_eq_self (fun c first => notBlank c (List.mem_of_head? first))
        fun c last => notBlank c (List.mem_of_getLast? last)
    rw [stripped, Text.trimBlank_framed blankBefore blankAfter, trimmed]
    exact Text.dropEnd_eq_nil_iff.mpr (by simpa using onlySlashes)

/-- The front of an address does not matter to what is left at its end. -/
theorem stripped_of_hidden {address slashes : List Char} {blank : Char}
    (filled : ∃ c ∈ address, Text.isBlank c = false) (isBlank : Text.isBlank blank)
    (someSlash : slashes ≠ []) (onlySlashes : ∀ c ∈ slashes, c = '/') :
    stripped (address ++ blank :: slashes) = address.dropWhile Text.isBlank ++ [blank] := by
  obtain ⟨c, member, notBlank⟩ := filled
  have remains : address.dropWhile Text.isBlank ≠ [] := by
    intro nothing
    have allBlank := List.dropWhile_eq_nil_iff.mp nothing c member
    exact Bool.eq_false_iff.mp notBlank allBlank
  have trimmed : Text.trimBlank (address ++ blank :: slashes) =
      address.dropWhile Text.isBlank ++ [blank] ++ slashes := by
    have kept : (address ++ blank :: slashes).dropWhile Text.isBlank =
        address.dropWhile Text.isBlank ++ [blank] ++ slashes := by
      rw [List.dropWhile_append, if_neg (by simpa using remains)]
      simp
    rw [Text.trimBlank, kept]
    apply Text.dropEnd_eq_self
    intro last isLast
    rw [List.getLast?_append_of_ne_nil _ someSlash] at isLast
    rw [onlySlashes last (List.mem_of_getLast? isLast), slash_notBlank]
  have notSlash : decide (blank = '/') = false := by
    apply decide_eq_false
    rintro rfl
    exact Bool.eq_false_iff.mp slash_notBlank isBlank
  rw [stripped, trimmed, Text.dropEnd_append (by simpa using onlySlashes),
    Text.dropEnd_concat notSlash]

theorem getLast?_stripped_iff {text : List Char} :
    (∃ c ∈ (stripped text).getLast?, Text.isBlank c) ↔ HidesBlank text := by
  constructor
  · rintro ⟨blank, last, isBlank⟩
    obtain ⟨before, after, parts, blankBefore, blankAfter⟩ := Text.exists_trimBlank text
    obtain ⟨slashes, trimmed, onlySlashes⟩ := exists_slashes text
    obtain ⟨address, ended⟩ := List.getLast?_eq_some_iff.mp last
    have isTrimmed : Text.trimBlank text = address ++ blank :: slashes := by
      rw [trimmed, ended, List.append_assoc, List.singleton_append]
    refine ⟨before ++ address, blank, slashes, after, ?_, ?_, isBlank, ?_, onlySlashes, blankAfter⟩
    · conv_lhs => rw [parts, isTrimmed]
      simp
    · cases address with
      | nil =>
          have first : (Text.trimBlank text).head? = some blank := by rw [isTrimmed]; rfl
          exact absurd isBlank (Bool.eq_false_iff.mp (Text.head?_trimBlank first))
      | cons first rest =>
          have isFirst : (Text.trimBlank text).head? = some first := by rw [isTrimmed]; rfl
          exact ⟨first, by simp, Text.head?_trimBlank isFirst⟩
    · rintro rfl
      have isLast : (Text.trimBlank text).getLast? = some blank := by rw [isTrimmed]; simp
      exact Bool.eq_false_iff.mp (Text.getLast?_trimBlank isLast) isBlank
  · rintro ⟨address, blank, slashes, after, rfl, filled, isBlank, someSlash, onlySlashes,
      blankAfter⟩
    have same : stripped (address ++ blank :: slashes ++ after) =
        stripped (address ++ blank :: slashes) := by
      rw [stripped, Text.trimBlank_append blankAfter, stripped]
    rw [same, stripped_of_hidden filled isBlank someSlash onlySlashes]
    exact ⟨blank, List.getLast?_concat, isBlank⟩

/-! ## Addresses that stay as they are -/

theorem stripped_eq_self {address : List Char} (hasScheme : HasScheme address)
    (clean : EndsClean address) : stripped address = address := by
  have trimmed : Text.trimBlank address = address :=
    Text.trimBlank_eq_self hasScheme.front fun c last => (clean c last).1
  rw [stripped, trimmed]
  exact Text.dropEnd_eq_self fun c last => by simpa using (clean c last).2

theorem isPrefix_trimBlank {address : List Char} (hasScheme : HasScheme address) :
    Text.trimBlank address <+: address := by
  rw [Text.trimBlank_of_front hasScheme.front]
  exact Text.isPrefix_dropEnd _ _

theorem HasScheme.isPrefix_stripped {address : List Char} (hasScheme : HasScheme address) :
    stripped address <+: address :=
  (Text.isPrefix_dropEnd _ _).trans (isPrefix_trimBlank hasScheme)

theorem ne_slash_of_stripped {address : List Char} {c : Char}
    (last : (stripped address).getLast? = some c) : c ≠ '/' := by
  simpa using Text.getLast?_dropEnd last

theorem stripped_ne_nil {address : List Char} (hasScheme : HasScheme address) :
    stripped address ≠ [] := by
  intro nothing
  obtain ⟨before, slashes, after, parts, blankBefore, onlySlashes, blankAfter⟩ :=
    stripped_eq_nil_iff.mp nothing
  -- the first letter of the scheme is neither white space nor a slash
  have letter : 'h' ∈ address := List.mem_of_head? hasScheme.head?
  rw [parts, List.mem_append, List.mem_append] at letter
  rcases letter with (letter | letter) | letter
  · exact absurd (blankBefore 'h' letter) (by decide)
  · exact absurd (onlySlashes 'h' letter) (by decide)
  · exact absurd (blankAfter 'h' letter) (by decide)

theorem endsClean_of_stripped_eq {address : List Char} (hasScheme : HasScheme address)
    (same : stripped address = address) : EndsClean address := by
  have isTrimmed : Text.trimBlank address = address := by
    apply (isPrefix_trimBlank hasScheme).eq_of_length_le
    conv_lhs => rw [← same]
    exact (Text.isPrefix_dropEnd _ _).length_le
  intro c last
  refine ⟨Text.getLast?_trimBlank (isTrimmed.symm ▸ last), ?_⟩
  exact ne_slash_of_stripped (same.symm ▸ last)

/-- Where trimming cuts into the scheme, what it leaves is a part of the scheme and ends clean. -/
theorem endsClean_of_cut {address : List Char} (hasScheme : HasScheme address)
    (cut : ¬ HasScheme (stripped address)) : EndsClean (stripped address) := by
  have isPart := hasScheme.isPrefix_stripped
  obtain ⟨scheme, isScheme, ofScheme⟩ : ∃ scheme ∈ schemes, stripped address <+: scheme := by
    rcases hasScheme with plain | secure
    · refine ⟨"http://".toList, by decide, ?_⟩
      exact (List.prefix_or_prefix_of_prefix isPart plain).resolve_right (cut ∘ Or.inl)
    · refine ⟨"https://".toList, by decide, ?_⟩
      exact (List.prefix_or_prefix_of_prefix isPart secure).resolve_right (cut ∘ Or.inr)
  have notBlank : ∀ scheme ∈ schemes, ∀ c ∈ scheme, Text.isBlank c = false := by
    have kept : (schemes.all fun scheme => scheme.all fun c => !Text.isBlank c) = true := by decide
    simpa using kept
  intro c last
  have member : c ∈ scheme := ofScheme.subset (List.mem_of_getLast? last)
  exact ⟨notBlank scheme isScheme c member, ne_slash_of_stripped last⟩

theorem endsClean_baseUrl_of_cut {url : String} (hasScheme : HasScheme url.toList)
    (cut : ¬ HasScheme (stripped url.toList)) : EndsClean (baseUrl url).toList := by
  intro c last
  rw [toList_baseUrl_of_not_hasScheme cut,
    List.getLast?_append_of_ne_nil _ (stripped_ne_nil hasScheme)] at last
  exact endsClean_of_cut hasScheme cut c last

/-- The addresses that `baseUrl` leaves as they are. -/
theorem baseUrl_eq_self_iff {url : String} :
    baseUrl url = url ↔ HasScheme url.toList ∧ EndsClean url.toList := by
  constructor
  · intro same
    have hasScheme : HasScheme url.toList := same ▸ hasScheme_baseUrl url
    refine ⟨hasScheme, ?_⟩
    by_cases kept : HasScheme (stripped url.toList)
    · apply endsClean_of_stripped_eq hasScheme
      rw [← toList_baseUrl_of_hasScheme kept, same]
    · exact same ▸ endsClean_baseUrl_of_cut hasScheme kept
  · rintro ⟨hasScheme, clean⟩
    have isStripped := stripped_eq_self hasScheme clean
    apply String.toList_inj.mp
    rw [toList_baseUrl_of_hasScheme (isStripped.symm ▸ hasScheme), isStripped]

/-- An address with a scheme that is not normal gets shorter, until it is normal or cut into its
scheme. -/
theorem exists_normal_of_hasScheme {url : String} (hasScheme : HasScheme url.toList) :
    ∃ rounds, baseUrl (baseUrl^[rounds] url) = baseUrl^[rounds] url := by
  induction length : url.toList.length using Nat.strongRecOn generalizing url with
  | ind bound inductionHypothesis =>
      by_cases clean : EndsClean url.toList
      · exact ⟨0, baseUrl_eq_self_iff.mpr ⟨hasScheme, clean⟩⟩
      · by_cases kept : HasScheme (stripped url.toList)
        · have isStripped := toList_baseUrl_of_hasScheme kept
          have isPart := hasScheme.isPrefix_stripped
          have shorter : (baseUrl url).toList.length < bound := by
            rw [isStripped, ← length]
            apply lt_of_le_of_ne isPart.length_le
            intro whole
            exact clean (endsClean_of_stripped_eq hasScheme (isPart.eq_of_length whole))
          obtain ⟨rounds, normal⟩ := inductionHypothesis _ shorter (hasScheme_baseUrl url) rfl
          exact ⟨rounds + 1, normal⟩
        · have normal := baseUrl_eq_self_iff.mpr
            ⟨hasScheme_baseUrl url, endsClean_baseUrl_of_cut hasScheme kept⟩
          exact ⟨1, normal⟩

/-! ## The end of a base address -/

theorem getLast?_baseUrl {url : String} (filled : stripped url.toList ≠ []) :
    (baseUrl url).toList.getLast? = (stripped url.toList).getLast? := by
  by_cases hasScheme : HasScheme (stripped url.toList)
  · rw [toList_baseUrl_of_hasScheme hasScheme]
  · rw [toList_baseUrl_of_not_hasScheme hasScheme, List.getLast?_append_of_ne_nil _ filled]

theorem baseUrl_of_hollow {url : String} (hollow : IsHollow url.toList) :
    baseUrl url = "http://" := by
  have nothing := stripped_eq_nil_iff.mpr hollow
  have without : ¬ HasScheme (stripped url.toList) := by
    rw [nothing]
    unfold HasScheme
    decide
  apply String.toList_inj.mp
  rw [toList_baseUrl_of_not_hasScheme without, nothing, List.append_nil]

theorem endsInSlash_iff {url : String} :
    (baseUrl url).toList.getLast? = some '/' ↔ IsHollow url.toList := by
  constructor
  · intro last
    by_contra filled
    rw [getLast?_baseUrl (mt stripped_eq_nil_iff.mp filled)] at last
    exact ne_slash_of_stripped last rfl
  · intro hollow
    rw [baseUrl_of_hollow hollow]
    rfl

theorem endsInBlank_iff {url : String} :
    (∃ c ∈ (baseUrl url).toList.getLast?, Text.isBlank c) ↔ HidesBlank url.toList := by
  rw [← getLast?_stripped_iff]
  by_cases filled : stripped url.toList = []
  · have last : "http://".toList.getLast? = some '/' := rfl
    rw [baseUrl_of_hollow (stripped_eq_nil_iff.mp filled), filled, last]
    simp [slash_notBlank]
  · rw [getLast?_baseUrl filled]

/-- White space before the slashes at the end of an address is not taken away. -/
theorem base_address_keeps_hidden_blank :
    let base := baseUrl "http://x /"
    base = "http://x " ∧ base.toList.getLast? = some ' ' ∧ baseUrl base ≠ base := by
  decide +kernel

/-- A base address begins with a scheme.  It ends in white space only where the address hid that
before slashes, and in a slash only where there was nothing else.  In all other cases it is normal,
and in these it is after some more rounds. -/
theorem base_addresses_are_normal_unless_end_hidden (url : String) :
    ("http://".toList <+: (baseUrl url).toList ∨ "https://".toList <+: (baseUrl url).toList) ∧
    (∀ c ∈ (baseUrl url).toList.head?, Text.isBlank c = false) ∧
    ((∃ c ∈ (baseUrl url).toList.getLast?, Text.isBlank c) ↔ HidesBlank url.toList) ∧
    ((baseUrl url).toList.getLast? = some '/' ↔ IsHollow url.toList) ∧
    (baseUrl (baseUrl url) = baseUrl url ↔ ¬ HidesBlank url.toList ∧ ¬ IsHollow url.toList) ∧
    ∃ rounds, baseUrl (baseUrl^[rounds] url) = baseUrl^[rounds] url := by
  have hasScheme : HasScheme (baseUrl url).toList := hasScheme_baseUrl url
  obtain ⟨rounds, normal⟩ := exists_normal_of_hasScheme hasScheme
  refine ⟨hasScheme, hasScheme.front, endsInBlank_iff, endsInSlash_iff, ?_, rounds + 1, normal⟩
  rw [baseUrl_eq_self_iff, ← endsInBlank_iff, ← endsInSlash_iff]
  constructor
  · rintro ⟨_, clean⟩
    constructor
    · rintro ⟨c, last, isBlank⟩
      exact Bool.eq_false_iff.mp (clean c last).1 isBlank
    · intro last
      exact (clean '/' last).2 rfl
  · rintro ⟨noBlank, noSlash⟩
    refine ⟨hasScheme, fun c last => ⟨?_, ?_⟩⟩
    · exact Bool.eq_false_iff.mpr fun isBlank => noBlank ⟨c, last, isBlank⟩
    · rintro rfl
      exact noSlash last

end CodeGraph.Address
