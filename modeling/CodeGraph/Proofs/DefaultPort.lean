import CodeGraph.Proofs.NormalAddresses
import CodeGraph.Proofs.Text.Cutting

/-!
# Default ports

A base address has a scheme, an authority and a path, in one way only.  The authority that has no
port gets the default port at its end.  It has one then, so no other is added, and everything else
stays as it was.
-/

set_option autoImplicit false

namespace CodeGraph.Address

/-! ## The parts of an address -/

/-- The parts that an address has: what stands before the first `://`, what stands between it and
the next slash, and the rest. -/
structure Parts.Of (parts : Parts) (address : List Char) : Prop where
  whole : parts.scheme ++ "://".toList ++ (parts.authority ++ parts.path) = address
  scheme : ':' ∉ parts.scheme
  authority : '/' ∉ parts.authority
  path : ∀ c ∈ parts.path.head?, c = '/'

theorem Parts.Of.ofUrl_eq {parts : Parts} {address : List Char} (isOf : parts.Of address) :
    Parts.ofUrl address = parts := by
  have cut : Text.cutAtFirst "://".toList address =
      some (parts.scheme, parts.authority ++ parts.path) := by
    rw [← isOf.whole]
    exact Text.cutAtFirst_append _ isOf.scheme
  have inAuthority := Text.forall_ne_of_not_mem isOf.authority
  have authorityEnds : parts.path.takeWhile (fun c => decide (c ≠ '/')) = [] ∧
      parts.path.dropWhile (fun c => decide (c ≠ '/')) = parts.path := by
    have begins := isOf.path
    cases path : parts.path with
    | nil => exact ⟨rfl, rfl⟩
    | cons first rest =>
        rw [path] at begins
        have isSlash : first = '/' := begins first rfl
        simp [isSlash]
  simp only [ofUrl, cut, Option.getD_some]
  rw [List.takeWhile_append_of_pos inAuthority, List.dropWhile_append_of_pos inAuthority,
    authorityEnds.1, authorityEnds.2, List.append_nil]

theorem HasScheme.exists_parts {address : List Char} (hasScheme : HasScheme address) :
    ∃ parts : Parts, parts.Of address := by
  have ofRest : ∀ (scheme rest : List Char), ':' ∉ scheme →
      scheme ++ "://".toList ++ rest = address → ∃ parts : Parts, parts.Of address := by
    intro scheme rest unmarked whole
    refine ⟨⟨scheme, rest.takeWhile (· ≠ '/'), rest.dropWhile (· ≠ '/')⟩, ?_, unmarked, ?_, ?_⟩
    · simpa using whole
    · intro member
      simpa using List.mem_takeWhile_imp member
    · intro c first
      simpa using Text.head?_dropWhile first
  rcases hasScheme with ⟨rest, whole⟩ | ⟨rest, whole⟩
  · exact ofRest "http".toList rest (by decide) whole
  · exact ofRest "https".toList rest (by decide) whole

/-! ## Ports -/

def EndsInPort (authority : List Char) : Prop :=
  ∃ host digits, authority = host ++ ':' :: digits ∧ host ≠ [] ∧ digits ≠ [] ∧
    ∀ c ∈ digits, c.isDigit

theorem colon_not_mem_digits {digits : List Char} (onlyDigits : ∀ c ∈ digits, c.isDigit) :
    ':' ∉ digits := by
  intro member
  exact absurd (onlyDigits ':' member) (by decide)

/-- What stands around the last colon decides whether there is a port. -/
theorem hasPort_append {host digits : List Char} (isLast : ':' ∉ digits) :
    hasPort (host ++ ':' :: digits) =
      (!host.isEmpty && !digits.isEmpty && digits.all Char.isDigit) := by
  have behind : ':' ∉ digits.reverse := by simpa using isLast
  have reversed : (host ++ ':' :: digits).reverse = digits.reverse ++ ':' :: host.reverse := by
    simp
  have read : (host ++ ':' :: digits).reverse.takeWhile (fun c => decide (c ≠ ':')) =
      digits.reverse := by
    rw [reversed, Text.takeWhile_ne_append_cons behind]
  have left : (host ++ ':' :: digits).reverse.dropWhile (fun c => decide (c ≠ ':')) =
      ':' :: host.reverse := by
    rw [reversed, Text.dropWhile_ne_append_cons behind]
  simp only [hasPort, read, left]
  simp

theorem hasPort_of_not_mem {authority : List Char} (without : ':' ∉ authority) :
    hasPort authority = false := by
  have nothing : authority.reverse.dropWhile (fun c => decide (c ≠ ':')) = [] :=
    List.dropWhile_eq_nil_iff.mpr (Text.forall_ne_of_not_mem (by simpa using without))
  simp only [hasPort, nothing]

theorem hasPort_iff {authority : List Char} : hasPort authority = true ↔ EndsInPort authority := by
  constructor
  · intro has
    by_cases member : ':' ∈ authority.reverse
    · obtain ⟨tail, front, reversed, isLast⟩ := List.eq_append_cons_of_mem member
      have parts : authority = front.reverse ++ ':' :: tail.reverse := by
        rw [← List.reverse_reverse authority, reversed]
        simp
      rw [parts, hasPort_append (by simpa using isLast)] at has
      refine ⟨front.reverse, tail.reverse, parts, ?_⟩
      simpa [and_assoc] using has
    · rw [hasPort_of_not_mem (by simpa using member)] at has
      cases has
  · rintro ⟨host, digits, rfl, hostFilled, digitsFilled, onlyDigits⟩
    rw [hasPort_append (colon_not_mem_digits onlyDigits)]
    simpa [hostFilled, digitsFilled] using onlyDigits

/-! ## The default port -/

section WithDefaultPort

variable {base : String} {parts : Parts}

def Parts.withPort (parts : Parts) (port : UInt16) : Parts :=
  { parts with authority := parts.authority ++ ':' :: (Nat.repr port.toNat).toList }

theorem withDefaultPort_of_port (isOf : parts.Of base.toList) (has : EndsInPort parts.authority)
    (port : UInt16) : withDefaultPort base port = base := by
  rw [withDefaultPort, isOf.ofUrl_eq, if_pos (hasPort_iff.mpr has)]

theorem toList_withDefaultPort (isOf : parts.Of base.toList)
    (without : ¬ EndsInPort parts.authority) (port : UInt16) :
    (withDefaultPort base port).toList = parts.scheme ++ "://".toList ++ parts.authority ++
      ':' :: (Nat.repr port.toNat).toList ++ parts.path := by
  rw [withDefaultPort, isOf.ofUrl_eq, if_neg (mt hasPort_iff.mp without), String.toList_ofList,
    Nat.toList_repr]

theorem slash_not_mem_toDigits (value : Nat) : '/' ∉ Nat.toDigits 10 value := by
  intro member
  exact absurd (Nat.isDigit_of_mem_toDigits (by omega) (by omega) member) (by decide)

theorem Parts.Of.withPort (isOf : parts.Of base.toList)
    (without : ¬ EndsInPort parts.authority) (port : UInt16) :
    (parts.withPort port).Of (withDefaultPort base port).toList where
  whole := by
    rw [toList_withDefaultPort isOf without]
    simp [Parts.withPort]
  scheme := isOf.scheme
  authority := by
    simp [Parts.withPort, isOf.authority, slash_not_mem_toDigits]
  path := isOf.path

theorem Parts.endsInPort_withPort (filled : parts.authority ≠ []) (port : UInt16) :
    EndsInPort (parts.withPort port).authority := by
  refine ⟨parts.authority, _, rfl, filled, ?_, ?_⟩
  · rw [Nat.toList_repr]
    exact Nat.toDigits_ne_nil
  · rw [Nat.toList_repr]
    exact fun c => Nat.isDigit_of_mem_toDigits (by omega) (by omega)

theorem Parts.Of.exists_port (isOf : parts.Of base.toList) (filled : parts.authority ≠ [])
    (port : UInt16) :
    ∃ whole : Parts, whole.Of (withDefaultPort base port).toList ∧ EndsInPort whole.authority := by
  by_cases has : EndsInPort parts.authority
  · exact ⟨parts, by rwa [withDefaultPort_of_port isOf has], has⟩
  · exact ⟨parts.withPort port, isOf.withPort has port, parts.endsInPort_withPort filled port⟩

theorem not_endsInPort_of_bracket (literal : List Char) : ¬ EndsInPort (literal ++ [']']) := by
  rintro ⟨host, digits, whole, _, digitsFilled, onlyDigits⟩
  have last : digits.getLast? = some ']' := by
    have lasts := congrArg List.getLast? whole
    rw [List.getLast?_concat, ← List.singleton_append, ← List.append_assoc,
      List.getLast?_append_of_ne_nil _ digitsFilled] at lasts
    exact lasts.symm
  exact absurd (onlyDigits ']' (List.mem_of_getLast? last)) (by decide)

end WithDefaultPort

/-- A base address has one scheme, authority and path.  If the authority ends in a port behind a
host, nothing changes; else the port stands behind the authority afterwards, and all else is as it
was.  Then there is a port, so that no other is added.  An IPv6 address in brackets is a host. -/
theorem default_port_is_inserted_once (url : String) (port other : UInt16) :
    (∃! parts : Parts, parts.Of (baseUrl url).toList) ∧
    ∀ parts : Parts, parts.Of (baseUrl url).toList → parts.authority ≠ [] →
      let full := withDefaultPort (baseUrl url) port
      let inserted := parts.scheme ++ "://".toList ++ parts.authority ++
        ':' :: (Nat.repr port.toNat).toList ++ parts.path
      (EndsInPort parts.authority → full = baseUrl url) ∧
      (¬ EndsInPort parts.authority → full.toList = inserted) ∧
      (∃ whole : Parts, whole.Of full.toList ∧ EndsInPort whole.authority) ∧
      withDefaultPort full other = full ∧
      (∀ literal, parts.authority = '[' :: literal ++ [']'] → full.toList = inserted) ∧
      (∀ literal digits, parts.authority = '[' :: literal ++ ']' :: ':' :: digits →
        digits ≠ [] → (∀ c ∈ digits, c.isDigit) → full = baseUrl url) := by
  constructor
  · obtain ⟨parts, isOf⟩ := (hasScheme_baseUrl url).exists_parts
    exact ⟨parts, isOf, fun others isOther => isOther.ofUrl_eq.symm.trans isOf.ofUrl_eq⟩
  · intro parts isOf filled full inserted
    obtain ⟨whole, isWhole, hasPort⟩ := isOf.exists_port filled port
    refine ⟨fun has => withDefaultPort_of_port isOf has port,
      fun without => toList_withDefaultPort isOf without port, ⟨whole, isWhole, hasPort⟩,
      withDefaultPort_of_port isWhole hasPort other, fun literal bracketed => ?_,
      fun literal digits bracketed digitsFilled onlyDigits => ?_⟩
    · apply toList_withDefaultPort isOf
      rw [bracketed]
      exact not_endsInPort_of_bracket _
    · apply withDefaultPort_of_port isOf
      refine ⟨'[' :: literal ++ [']'], digits, ?_, by simp, digitsFilled, onlyDigits⟩
      rw [bracketed]
      simp

/-- The colons inside the brackets are not taken for that of a port. -/
theorem default_port_is_inserted_once_behind_brackets :
    let base := baseUrl " https://[::1]/ts/"
    let parts : Parts := ⟨"https".toList, "[::1]".toList, "/ts".toList⟩
    parts.Of base.toList ∧ parts.authority ≠ [] ∧
      (withDefaultPort base 8108).toList = "https://[::1]:8108/ts".toList ∧
      withDefaultPort (withDefaultPort base 8108) 9000 = withDefaultPort base 8108 := by
  intro base parts
  have isOf : parts.Of base.toList :=
    ⟨by decide +kernel, by decide, by decide, fun c first => (Option.some.inj first).symm⟩
  have filled : parts.authority ≠ [] := by decide
  obtain ⟨_, _, _, once, bracketed, _⟩ :=
    (default_port_is_inserted_once " https://[::1]/ts/" 8108 9000).2 parts isOf filled
  exact ⟨isOf, filled, bracketed "::1".toList rfl, once⟩

end CodeGraph.Address
