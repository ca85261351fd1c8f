import TaskTwin.Text.Quotation

/-!
# Octets

A string is encoded in UTF-8, and octets are written in the alphabet of
base64url without padding.  Reading what was written gives the octets back.
-/

namespace TaskTwin.Text

abbrev Octet := Fin 256

/-- The code point of a pair of surrogates. -/
def pairedCodePoint (leading trailing : CodeUnit) : Nat :=
  0x10000 + (leading.val - 0xD800) * 0x400 + (trailing.val - 0xDC00)

/-- The code point of a code unit that stands alone. -/
def loneCodePoint (symbol : CodeUnit) : Nat :=
  if CodeUnit.isSurrogate symbol then 0xFFFD else symbol.val

def codePoints : JsString → List Nat
  | [] => []
  | [symbol] => [loneCodePoint symbol]
  | first :: second :: rest =>
      if CodeUnit.isLeadingSurrogate first &&
          CodeUnit.isTrailingSurrogate second then
        pairedCodePoint first second :: codePoints rest
      else
        loneCodePoint first :: codePoints (second :: rest)

def octet (value : Nat) : Octet := Fin.ofNat _ value

/-- An octet behind the first one of a code point. -/
def continuation (value : Nat) : Octet := octet (0x80 + value % 64)

def utf8CodePoint (code : Nat) : List Octet :=
  if code < 0x80 then [octet code]
  else if code < 0x800 then
    [octet (0xC0 + code / 64), continuation code]
  else if code < 0x10000 then
    [octet (0xE0 + code / 4096), continuation (code / 64), continuation code]
  else
    [octet (0xF0 + code / 262144), continuation (code / 4096),
      continuation (code / 64), continuation code]

/-- `TextEncoder.encode`. -/
def utf8Encode (text : JsString) : List Octet :=
  (codePoints text).flatMap utf8CodePoint

def base64UrlSymbol (value : Nat) : CodeUnit :=
  if value < 26 then Fin.ofNat _ (65 + value)
  else if value < 52 then Fin.ofNat _ (71 + value)
  else if value < 62 then Fin.ofNat _ (value - 4)
  else if value = 62 then unit '-'
  else unit '_'

/-- Other symbols are skipped; those of base64 are read as well. -/
def base64UrlValue (symbol : CodeUnit) : Option Nat :=
  if CodeUnit.isUpper symbol then some (symbol.val - 65)
  else if CodeUnit.isLower symbol then some (symbol.val - 71)
  else if CodeUnit.isDigit symbol then some (symbol.val + 4)
  else if symbol = unit '-' ∨ symbol = unit '+' then some 62
  else if symbol = unit '_' ∨ symbol = unit '/' then some 63
  else none

theorem base64UrlValue_symbol :
    ∀ value : Fin 64,
      base64UrlValue (base64UrlSymbol value.val) = some value.val := by
  decide

/-- The values of the symbols that three octets are written with. -/
def sextets : List Octet → List Nat
  | first :: second :: third :: rest =>
      first.val / 4 :: (first.val % 4 * 16 + second.val / 16) ::
        (second.val % 16 * 4 + third.val / 64) :: third.val % 64 ::
          sextets rest
  | [first, second] =>
      [first.val / 4, first.val % 4 * 16 + second.val / 16,
        second.val % 16 * 4]
  | [first] => [first.val / 4, first.val % 4 * 16]
  | [] => []

/-- One symbol alone is less than an octet. -/
def octetsOf : List Nat → List Octet
  | first :: second :: third :: fourth :: rest =>
      octet (first * 4 + second / 16) ::
        octet (second % 16 * 16 + third / 4) ::
          octet (third % 4 * 64 + fourth) :: octetsOf rest
  | [first, second, third] =>
      [octet (first * 4 + second / 16), octet (second % 16 * 16 + third / 4)]
  | [first, second] => [octet (first * 4 + second / 16)]
  | _ => []

theorem octet_eq
    {value : Nat}
    (expected : Octet)
    (same : value = expected.val) :
    octet value = expected := by
  apply Fin.ext
  simp only [octet, Fin.ofNat]
  omega

theorem sextets_bounded (octets : List Octet) :
    ∀ value ∈ sextets octets, value < 64 := by
  induction octets using sextets.induct with
  | case1 first second third rest inductionHypothesis =>
      intro value listed
      simp only [sextets, List.mem_cons] at listed
      rcases listed with rfl | rfl | rfl | rfl | later
      · omega
      · omega
      · omega
      · omega
      · exact inductionHypothesis value later
  | case2 first second =>
      intro value listed
      simp only [sextets, List.mem_cons, List.not_mem_nil, or_false] at listed
      omega
  | case3 first =>
      intro value listed
      simp only [sextets, List.mem_cons, List.not_mem_nil, or_false] at listed
      omega
  | case4 => simp [sextets]

theorem octetsOf_sextets (octets : List Octet) :
    octetsOf (sextets octets) = octets := by
  induction octets using sextets.induct with
  | case1 first second third rest inductionHypothesis =>
      rw [sextets, octetsOf, inductionHypothesis, octet_eq first,
        octet_eq second, octet_eq third] <;>
        omega
  | case2 first second =>
      rw [sextets, octetsOf, octet_eq first,
        octet_eq second] <;>
        omega
  | case3 first =>
      rw [sextets, octetsOf, octet_eq first]
      omega
  | case4 => rfl

/-- `Buffer.toString('base64url')`. -/
def base64UrlText (octets : List Octet) : JsString :=
  (sextets octets).map base64UrlSymbol

/-- `Buffer.from(text, 'base64url')`. -/
def base64UrlOctets (text : JsString) : List Octet :=
  octetsOf (text.filterMap base64UrlValue)

theorem filterMap_base64UrlSymbol
    {values : List Nat}
    (bounded : ∀ value ∈ values, value < 64) :
    (values.map base64UrlSymbol).filterMap base64UrlValue = values := by
  rw [List.filterMap_map]
  calc
    values.filterMap (base64UrlValue ∘ base64UrlSymbol) =
        values.filterMap some :=
      List.filterMap_congr fun value listed =>
        base64UrlValue_symbol ⟨value, bounded value listed⟩
    _ = values := List.filterMap_some

/-- Reading what was written. -/
theorem base64UrlOctets_text (octets : List Octet) :
    base64UrlOctets (base64UrlText octets) = octets := by
  rw [base64UrlOctets, base64UrlText,
    filterMap_base64UrlSymbol (sextets_bounded octets), octetsOf_sextets]

end TaskTwin.Text
