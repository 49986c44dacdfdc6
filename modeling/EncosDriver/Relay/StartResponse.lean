import EncosDriver.Lib.Decimal
import EncosDriver.Lib.JsonText
import EncosDriver.Lib.TextSearch

set_option autoImplicit false

namespace EncosDriver.Relay

open Lib Lib.JsonText Lib.TextSearch

def kIntMin : Int := -2147483648
def kIntMax : Int := 2147483647

def isCSpace (c : Char) : Bool := isSpace c || c == '\x0b' || c == '\x0c'

def stoi (text : List Char) : Option Int :=
  let body := text.dropWhile isCSpace
  let negative := body.head? == some '-'
  let digits := (if negative || body.head? == some '+' then body.drop 1 else body).takeWhile Char.isDigit
  let number : Int := if negative then -(Decimal.value digits : Int) else Decimal.value digits
  if digits = [] then none else if kIntMin ≤ number ∧ number ≤ kIntMax then some number else none

def extractQuotedString (response key : List Char) : List Char :=
  (do
    let keyPos ← find (quoted key) response
    let colon ← findOf (· == ':') response keyPos
    let quoteStart ← findOf (· == '"') response colon
    let quoteEnd ← findOf (· == '"') response (quoteStart + 1)
    return (response.drop (quoteStart + 1)).take (quoteEnd - quoteStart - 1)).getD []

def valueText (response : List Char) (valueStart : Nat) : List Char :=
  match findOf (fun c => c == ',' || c == '}') response valueStart with
  | some stop => (response.drop valueStart).take (stop - valueStart)
  | none => response.drop valueStart

def extractInt (response key : List Char) (defaultValue : Int) : Int :=
  (do
    let keyPos ← find (quoted key) response
    let colon ← findOf (· == ':') response keyPos
    let valueStart ← findOf (fun c => !(c == ' ' || c == '\t')) response (colon + 1)
    stoi (valueText response valueStart)).getD defaultValue

structure RelayWsStartResponse where
  session : List Char
  busCount : Int
deriving DecidableEq, Repr

def kSession : List Char := "session".toList
def kBusCount : List Char := "bus_count".toList

def parseRelayStartResponse (response : List Char) : RelayWsStartResponse :=
  ⟨extractQuotedString response kSession, extractInt response kBusCount 0⟩

def LeadsTo (key front : List Char) : Prop := ∀ index, find (quoted key) (front ++ quoted key) = some index → ':' ∉ front.drop index

theorem colon_reached (key front gap rest : List Char) (plain : ':' ∉ key) (blank : ':' ∉ gap) (leads : LeadsTo key front) :
    ∃ keyPos colon, find (quoted key) (front ++ (quoted key ++ (gap ++ ':' :: rest))) = some keyPos ∧
      findOf (· == ':') (front ++ (quoted key ++ (gap ++ ':' :: rest))) keyPos = some colon ∧
      (front ++ (quoted key ++ (gap ++ ':' :: rest))).drop colon = ':' :: rest := by
  obtain ⟨keyPos, within, short, long⟩ := find_up_to (quoted key) front (gap ++ ':' :: rest)
  have clear := leads keyPos short
  have shape : (front ++ (quoted key ++ (gap ++ ':' :: rest))).drop keyPos =
      (front.drop keyPos ++ quoted key ++ gap) ++ ':' :: rest := by
    rw [List.drop_append_of_le_length within]
    simp
  obtain ⟨found, left⟩ := find_symbol_at ':' _ _ _ _ shape (by
    intro inside
    simp only [quoted, List.mem_append, List.mem_cons, List.not_mem_nil, or_false] at inside
    rcases inside with (inside | (quote | inside) | quote) | inside
    · exact clear inside
    · exact absurd quote (by decide)
    · exact plain inside
    · exact absurd quote (by decide)
    · exact blank inside)
  exact ⟨keyPos, _, long, found, left⟩

theorem extract_quoted_string_reached (key front gap space body rest : List Char) (plain : ':' ∉ key) (blank : ':' ∉ gap)
    (leads : LeadsTo key front) (unquotedSpace : '"' ∉ space) (unquoted : '"' ∉ body) :
    extractQuotedString (front ++ (quoted key ++ (gap ++ ':' :: (space ++ (quoted body ++ rest))))) key = body := by
  obtain ⟨keyPos, colon, foundKey, foundColon, atColon⟩ :=
    colon_reached key front gap (space ++ (quoted body ++ rest)) plain blank leads
  generalize front ++ (quoted key ++ (gap ++ ':' :: (space ++ (quoted body ++ rest)))) = response at foundKey foundColon atColon ⊢
  have opening : response.drop colon = (':' :: space) ++ '"' :: (body ++ '"' :: rest) := by
    rw [atColon]
    simp [quoted]
  obtain ⟨foundStart, atStart⟩ := find_symbol_at '"' _ _ _ _ opening (by
    intro inside
    rcases List.mem_cons.mp inside with colonQuote | inside
    · exact absurd colonQuote (by decide)
    · exact unquotedSpace inside)
  have inside : response.drop (colon + (':' :: space).length + 1) = body ++ '"' :: rest := by
    rw [← List.drop_drop, atStart]
    rfl
  obtain ⟨foundEnd, -⟩ := find_symbol_at '"' _ _ _ _ inside unquoted
  have size : colon + (':' :: space).length + 1 + body.length - (colon + (':' :: space).length) - 1 = body.length := by omega
  simp only [extractQuotedString, foundKey, foundColon, foundStart, foundEnd, Option.bind_eq_bind, Option.bind_some, inside, size,
    List.take_left]
  rfl

inductive WrittenInteger : List Char → Int → Prop where
  | natural (digits : List Char) (present : digits ≠ []) (decimal : digits.all Char.isDigit = true) :
      WrittenInteger digits (Decimal.value digits)
  | negative (digits : List Char) (present : digits ≠ []) (decimal : digits.all Char.isDigit = true) :
      WrittenInteger ('-' :: digits) (-(Decimal.value digits : Int))

theorem space_digit (c : Char) (blank : isSpace c = true) : c.isDigit = false := by
  simp only [isSpace, Bool.or_eq_true, beq_iff_eq] at blank
  rcases blank with ((rfl | rfl) | rfl) | rfl <;> rfl

theorem digit_space (c : Char) (digit : c.isDigit = true) : isCSpace c = false := by
  obtain ⟨low, high⟩ := Decimal.digit_bounds c digit
  refine Bool.eq_false_iff.mpr fun blank => ?_
  simp only [isCSpace, isSpace, Bool.or_eq_true, beq_iff_eq] at blank
  rcases blank with ((((rfl | rfl) | rfl) | rfl) | rfl) | rfl <;> exact absurd low (by decide)

theorem digits_before_space (digits behind : List Char) (decimal : digits.all Char.isDigit = true)
    (blank : ∀ c ∈ behind, isSpace c = true) : (digits ++ behind).takeWhile Char.isDigit = digits := by
  rw [List.takeWhile_append_of_pos (List.all_eq_true.mp decimal)]
  cases behind with
  | nil => rw [List.takeWhile_nil, List.append_nil]
  | cons c rest =>
    rw [List.takeWhile_cons, space_digit c (blank c List.mem_cons_self), if_neg Bool.false_ne_true, List.append_nil]

theorem stoi_written (space number behind : List Char) (count : Int) (written : WrittenInteger number count)
    (inRange : kIntMin ≤ count ∧ count ≤ kIntMax) (blank : ∀ c ∈ space, isSpace c = true)
    (blankBehind : ∀ c ∈ behind, isSpace c = true) : stoi (space ++ (number ++ behind)) = some count := by
  have skipped : ∀ c ∈ space, isCSpace c = true := by
    intro c inside
    simp only [isCSpace, blank c inside, Bool.true_or]
  cases written with
  | natural _ present decimal =>
    cases number with
    | nil => exact absurd rfl present
    | cons digit digits =>
      have first := List.all_eq_true.mp decimal digit List.mem_cons_self
      have noMinus : (digit == '-') = false := by
        rw [beq_eq_false_iff_ne]
        rintro rfl
        cases first
      have noPlus : (digit == '+') = false := by
        rw [beq_eq_false_iff_ne]
        rintro rfl
        cases first
      have body : (space ++ (digit :: digits ++ behind)).dropWhile isCSpace = digit :: digits ++ behind := by
        rw [List.dropWhile_append_of_pos skipped, List.cons_append, List.dropWhile_cons, digit_space digit first,
          if_neg Bool.false_ne_true]
      have run := digits_before_space (digit :: digits) behind decimal blankBehind
      rw [stoi, body]
      simp only [List.cons_append, List.head?_cons, Option.some_beq_some, noMinus, noPlus, Bool.or_self, Bool.false_eq_true,
        ↓reduceIte] at run ⊢
      rw [run, if_neg present, if_pos inRange]
  | negative digits present decimal =>
    have body : (space ++ ('-' :: digits ++ behind)).dropWhile isCSpace = '-' :: digits ++ behind := by
      rw [List.dropWhile_append_of_pos skipped]
      rfl
    have run := digits_before_space digits behind decimal blankBehind
    rw [stoi, body]
    simp only [List.cons_append, List.head?_cons, beq_self_eq_true, Bool.true_or, ↓reduceIte, List.drop_succ_cons, List.drop_zero,
      run]
    rw [if_neg present, if_pos inRange]

theorem extract_int_reached (key front : List Char) (gap space behind : Spaces) (number : Scalar) (count defaultValue : Int)
    (stop : Char) (rest : List Char) (plain : ':' ∉ key) (leads : LeadsTo key front) (ends : stop = ',' ∨ stop = '}')
    (written : WrittenInteger number.text count) (inRange : kIntMin ≤ count ∧ count ≤ kIntMax) :
    extractInt
      (front ++ (quoted key ++ (gap.text ++ ':' :: (space.text ++ (number.text ++ (behind.text ++ stop :: rest)))))) key
      defaultValue = count := by
  obtain ⟨keyPos, colon, foundKey, foundColon, atColon⟩ :=
    colon_reached key front gap.text (space.text ++ (number.text ++ (behind.text ++ stop :: rest))) plain (space_plain gap ':' rfl)
      leads
  generalize front ++ (quoted key ++ (gap.text ++ ':' :: (space.text ++ (number.text ++ (behind.text ++ stop :: rest))))) =
    response at foundKey foundColon atColon ⊢
  obtain ⟨first, digits, shape⟩ := List.exists_cons_of_ne_nil number.present
  have solid : isScalarChar first = true := number.plain first (shape ▸ List.mem_cons_self)
  have notBlank : (!(first == ' ' || first == '\t')) = true := by
    rw [Bool.not_eq_true', Bool.or_eq_false_iff, beq_eq_false_iff_ne, beq_eq_false_iff_ne]
    refine ⟨?_, ?_⟩
    · rintro rfl
      cases solid
    · rintro rfl
      cases solid
  have value : response.drop (colon + 1) = space.text ++ first :: (digits ++ (behind.text ++ stop :: rest)) := by
    rw [← List.drop_drop, atColon, shape]
    rfl
  obtain ⟨foundStart, atStart⟩ := find_of_front (fun c => !(c == ' ' || c == '\t')) _ _ _ _ _ value notBlank
  generalize colon + 1 + (List.takeWhile _ space.text).length = valueStart at foundStart atStart
  have left : ∀ c ∈ space.text.dropWhile fun c => !!(c == ' ' || c == '\t'), isSpace c = true :=
    fun c inside => space.blank c ((List.dropWhile_sublist _).mem inside)
  generalize (space.text.dropWhile fun c => !!(c == ' ' || c == '\t')) = others at left atStart
  have whole : response.drop valueStart = (others ++ (number.text ++ behind.text)) ++ stop :: rest := by
    rw [atStart, shape]
    simp
  have unended : ∀ c ∈ others ++ (number.text ++ behind.text), (c == ',' || c == '}') = false := by
    intro c inside
    rw [Bool.or_eq_false_iff, beq_eq_false_iff_ne, beq_eq_false_iff_ne]
    simp only [List.mem_append] at inside
    refine ⟨?_, ?_⟩
    · rintro rfl
      rcases inside with inside | inside | inside
      · exact absurd (left _ inside) (by decide)
      · exact scalar_plain number ',' rfl inside
      · exact space_plain behind ',' rfl inside
    · rintro rfl
      rcases inside with inside | inside | inside
      · exact absurd (left _ inside) (by decide)
      · exact scalar_plain number '}' rfl inside
      · exact space_plain behind '}' rfl inside
  have ended : (stop == ',' || stop == '}') = true := by
    rcases ends with rfl | rfl <;> rfl
  obtain ⟨foundStop, -⟩ := find_of_at (fun c => c == ',' || c == '}') _ _ _ _ _ whole unended ended
  have text : valueText response valueStart = others ++ (number.text ++ behind.text) := by
    simp only [valueText, foundStop, whole, Nat.add_sub_cancel_left, List.take_left]
  have read := stoi_written others number.text behind.text count written inRange left behind.blank
  simp only [extractInt, foundKey, foundColon, foundStart, text, read, Option.bind_eq_bind, Option.bind_some, Option.getD_some]

theorem colon_missed (key front : List Char) (astray : ¬ LeadsTo key front) :
    ∃ keyPos colon tail, ':' :: tail <:+ front ∧ ∀ rest,
      find (quoted key) (front ++ (quoted key ++ rest)) = some keyPos ∧
        findOf (· == ':') (front ++ (quoted key ++ rest)) keyPos = some colon ∧
        (front ++ (quoted key ++ rest)).drop colon = (':' :: tail) ++ (quoted key ++ rest) := by
  obtain ⟨keyPos, within, short, -⟩ := find_up_to (quoted key) front []
  have inside : ':' ∈ front.drop keyPos := by
    by_contra clear
    refine astray fun index found => ?_
    rw [short] at found
    cases found
    exact clear
  obtain ⟨skipped, tail, shape, absent⟩ := List.eq_append_cons_of_mem inside
  refine ⟨keyPos, keyPos + skipped.length, tail, ?_, ?_⟩
  · exact (List.suffix_append skipped _).trans (shape ▸ List.drop_suffix keyPos front)
  · intro rest
    obtain ⟨index, -, again, long⟩ := find_up_to (quoted key) front rest
    rw [short] at again
    cases again
    have whole : (front ++ (quoted key ++ rest)).drop keyPos = skipped ++ ':' :: (tail ++ (quoted key ++ rest)) := by
      rw [List.drop_append_of_le_length within, shape]
      simp
    obtain ⟨found, left⟩ := find_symbol_at ':' _ _ _ _ whole absent
    exact ⟨long, found, left⟩

theorem extract_quoted_string_astray (key front : List Char) (astray : ¬ LeadsTo key front) :
    ∃ read, ∀ rest, extractQuotedString (front ++ (quoted key ++ rest)) key = read := by
  obtain ⟨keyPos, colon, tail, -, reached⟩ := colon_missed key front astray
  let opening := (':' :: tail).takeWhile fun c => !(c == '"')
  let others := ((':' :: tail).dropWhile fun c => !(c == '"')) ++ ['"']
  let body := others.drop 1 ++ key
  refine ⟨body.take (body.takeWhile fun c => !(c == '"')).length, ?_⟩
  intro rest
  obtain ⟨foundKey, foundColon, atColon⟩ := reached rest
  generalize front ++ (quoted key ++ rest) = response at foundKey foundColon atColon ⊢
  have upTo : response.drop colon = (':' :: tail) ++ '"' :: (key ++ '"' :: rest) := by
    rw [atColon]
    simp [quoted]
  obtain ⟨foundStart, atStart⟩ := find_of_front (· == '"') _ _ _ _ _ upTo rfl
  have inside : response.drop (colon + opening.length + 1) = body ++ '"' :: rest := by
    have present : 1 ≤ others.length := by simp [others]
    have joined : others ++ (key ++ '"' :: rest) =
        ((':' :: tail).dropWhile fun c => !(c == '"')) ++ '"' :: (key ++ '"' :: rest) := by simp [others]
    rw [← List.drop_drop, atStart, ← joined, List.drop_append_of_le_length present, List.append_assoc]
  obtain ⟨foundEnd, -⟩ := find_of_front (· == '"') _ _ _ _ _ inside rfl
  have size (count : Nat) : colon + opening.length + 1 + count - (colon + opening.length) - 1 = count := by omega
  have fits : (body.takeWhile fun c => !(c == '"')).length ≤ body.length := (List.takeWhile_sublist _).length_le
  simp only [extractQuotedString, foundKey, foundColon, foundStart, Option.bind_eq_bind, Option.bind_some]
  change (((findOf (· == '"') response (colon + opening.length + 1)).bind fun quoteEnd =>
    some ((response.drop (colon + opening.length + 1)).take (quoteEnd - (colon + opening.length) - 1))).getD []) = _
  rw [foundEnd, Option.bind_some, inside, size, List.take_append_of_le_length fits, Option.getD_some]

theorem extract_int_astray (key front others : List Char) (before : Spaces) (defaultValue : Int) (astray : ¬ LeadsTo key front)
    (comma : front = others ++ ',' :: before.text) :
    ∃ read, ∀ rest, extractInt (front ++ (quoted key ++ rest)) key defaultValue = read := by
  obtain ⟨keyPos, colon, tail, within, reached⟩ := colon_missed key front astray
  have inside : ',' ∈ tail := by
    have last : ',' :: before.text <:+ front := comma ▸ List.suffix_append _ _
    rcases List.suffix_or_suffix_of_suffix last within with short | long
    · rcases List.suffix_cons_iff.mp short with same | short
      · cases same
      · exact short.subset List.mem_cons_self
    · rcases List.mem_cons.mp (long.subset List.mem_cons_self) with same | blank
      · exact absurd same (by decide)
      · exact absurd blank (space_plain before ':' rfl)
  obtain ⟨upTo, behind, rfl⟩ := List.append_of_mem inside
  let skipped := upTo.takeWhile fun c => !!(c == ' ' || c == '\t')
  let value := upTo.dropWhile fun c => !!(c == ' ' || c == '\t')
  refine ⟨(stoi (value.take (value.takeWhile fun c => !(c == ',' || c == '}')).length)).getD defaultValue, ?_⟩
  intro rest
  obtain ⟨foundKey, foundColon, atColon⟩ := reached rest
  generalize front ++ (quoted key ++ rest) = response at foundKey foundColon atColon ⊢
  have following : response.drop (colon + 1) = upTo ++ ',' :: (behind ++ (quoted key ++ rest)) := by
    rw [← List.drop_drop, atColon]
    simp
  obtain ⟨foundStart, atStart⟩ := find_of_front (fun c => !(c == ' ' || c == '\t')) _ _ _ _ _ following rfl
  obtain ⟨foundStop, -⟩ := find_of_front (fun c => c == ',' || c == '}') _ _ _ _ _ atStart rfl
  have fits : (value.takeWhile fun c => !(c == ',' || c == '}')).length ≤ value.length := (List.takeWhile_sublist _).length_le
  have text : valueText response (colon + 1 + skipped.length) =
      value.take (value.takeWhile fun c => !(c == ',' || c == '}')).length := by
    simp only [valueText, skipped, foundStop, atStart, Nat.add_sub_cancel_left]
    exact List.take_append_of_le_length fits
  simp only [extractInt, foundKey, foundColon, Option.bind_eq_bind, Option.bind_some]
  rw [foundStart, Option.bind_some, text]

structure Place (members : List Member) (key : List Char) where
  earlier : List Member
  later : List Member
  before : Spaces
  name : Body
  gap : Spaces
  space : Spaces
  value : Json
  behind : Spaces
  named : name.text = key
  split : members = earlier ++ .mk before name gap space value behind :: later

def Place.holding {members : List Member} {key : List Char} (place : Place members key) (value : Json) : List Member :=
  place.earlier ++ .mk place.before place.name place.gap place.space value place.behind :: place.later

def Place.front {members : List Member} {key : List Char} (place : Place members key) (leading : Spaces) : List Char :=
  frontText leading place.earlier place.before

structure StartObject where
  leading : Spaces
  members : List Member
  trailing : Spaces
  session : Place members kSession
  body : Body
  unescaped : '\\' ∉ body.text
  isString : session.value = .string body
  busCount : Place members kBusCount
  number : Scalar
  count : Int
  written : WrittenInteger number.text count
  inRange : kIntMin ≤ count ∧ count ≤ kIntMax
  isNumber : busCount.value = .scalar number

def StartObject.text (object : StartObject) : List Char := objectText object.leading object.members object.trailing

theorem holding_own {members : List Member} {key : List Char} (place : Place members key) : place.holding place.value = members :=
  place.split.symm

variable (leading trailing : Spaces) (members : List Member)

theorem session_reached (place : Place members kSession)
    (leads : LeadsTo kSession (place.front leading)) (body : Body) (unescaped : '\\' ∉ body.text) :
    extractQuotedString (objectText leading (place.holding (.string body)) trailing) kSession = body.text := by
  obtain ⟨stop, rest, -, shape⟩ := object_text_at leading trailing place.before place.gap place.space place.behind place.name
    place.earlier place.later
  rw [Place.holding, shape, place.named, Json.render]
  exact extract_quoted_string_reached kSession _ _ _ _ _ (by decide) (space_plain place.gap ':' rfl) leads
    (space_plain place.space '"' rfl) (unescaped_unquoted body.text body.wellQuoted unescaped)

theorem bus_count_reached (place : Place members kBusCount)
    (leads : LeadsTo kBusCount (place.front leading)) (number : Scalar) (count : Int) (written : WrittenInteger number.text count)
    (inRange : kIntMin ≤ count ∧ count ≤ kIntMax) :
    extractInt (objectText leading (place.holding (.scalar number)) trailing) kBusCount 0 = count := by
  obtain ⟨stop, rest, ends, shape⟩ := object_text_at leading trailing place.before place.gap place.space place.behind place.name
    place.earlier place.later
  rw [Place.holding, shape, place.named, Json.render]
  exact extract_int_reached kBusCount _ _ _ _ _ _ _ _ _ (by decide) leads ends written inRange

theorem session_astray (place : Place members kSession) (astray : ¬ LeadsTo kSession (place.front leading)) :
    ∃ read, ∀ value, extractQuotedString (objectText leading (place.holding value) trailing) kSession = read := by
  obtain ⟨stop, rest, -, shape⟩ := object_text_at leading trailing place.before place.gap place.space place.behind place.name
    place.earlier place.later
  obtain ⟨read, always⟩ := extract_quoted_string_astray kSession _ astray
  refine ⟨read, fun value => ?_⟩
  rw [Place.holding, shape, place.named]
  exact always _

theorem bus_count_astray (place : Place members kBusCount) (astray : ¬ LeadsTo kBusCount (place.front leading)) :
    ∃ read, ∀ value, extractInt (objectText leading (place.holding value) trailing) kBusCount 0 = read := by
  obtain ⟨stop, rest, -, shape⟩ := object_text_at leading trailing place.before place.gap place.space place.behind place.name
    place.earlier place.later
  have present : place.earlier ≠ [] := by
    intro first
    refine astray fun index found inside => ?_
    have colon := (List.drop_sublist _ _).mem inside
    simp only [Place.front, frontText, first, List.flatMap_nil, List.nil_append, List.mem_append, List.mem_cons] at colon
    rcases colon with blank | brace | blank
    · exact space_plain leading ':' rfl blank
    · exact absurd brace (by decide)
    · exact space_plain place.before ':' rfl blank
  obtain ⟨others, comma⟩ := front_text_comma leading place.before place.earlier present
  obtain ⟨read, always⟩ := extract_int_astray kBusCount _ others place.before 0 astray comma
  refine ⟨read, fun value => ?_⟩
  rw [Place.holding, shape, place.named]
  exact always _

def digitScalar (digit : Char) (plain : isScalarChar digit = true) : Scalar where
  text := [digit]
  present := List.cons_ne_nil digit []
  plain := by
    intro c inside
    rw [List.mem_singleton.mp inside]
    exact plain

/-- A member is read from its own place, whatever its value is, exactly when the search leads to it. -/
theorem start_response_read (object : StartObject) :
    (LeadsTo kSession (object.session.front object.leading) ∧ LeadsTo kBusCount (object.busCount.front object.leading) →
      parseRelayStartResponse object.text = ⟨object.body.text, object.count⟩) ∧
      ((∀ body : Body, '\\' ∉ body.text →
          (parseRelayStartResponse
            (objectText object.leading (object.session.holding (.string body)) object.trailing)).session = body.text) ↔
        LeadsTo kSession (object.session.front object.leading)) ∧
      ((∀ (number : Scalar) (count : Int), WrittenInteger number.text count → kIntMin ≤ count ∧ count ≤ kIntMax →
          (parseRelayStartResponse
            (objectText object.leading (object.busCount.holding (.scalar number)) object.trailing)).busCount = count) ↔
        LeadsTo kBusCount (object.busCount.front object.leading)) := by
  refine ⟨?_, ⟨?_, ?_⟩, ⟨?_, ?_⟩⟩
  · rintro ⟨leadsSession, leadsCount⟩
    have session := session_reached object.leading object.trailing _ _ leadsSession object.body object.unescaped
    have busCount := bus_count_reached object.leading object.trailing _ _ leadsCount object.number object.count object.written
      object.inRange
    rw [← object.isString, holding_own] at session
    rw [← object.isNumber, holding_own] at busCount
    rw [parseRelayStartResponse, StartObject.text, session, busCount]
  · intro reads
    by_contra astray
    obtain ⟨read, always⟩ := session_astray object.leading object.trailing _ _ astray
    have empty := reads ⟨[], .done⟩ (by decide)
    have other := reads ⟨['0'], well_quoted_plain _ (by decide)⟩ (by decide)
    exact absurd ((empty.symm.trans (always _)).trans ((always _).symm.trans other)) (by decide)
  · intro leads body unescaped
    exact session_reached object.leading object.trailing _ _ leads body unescaped
  · intro reads
    by_contra astray
    obtain ⟨read, always⟩ := bus_count_astray object.leading object.trailing _ _ astray
    have zero := reads (digitScalar '0' rfl) 0 (.natural ['0'] (by decide) (by decide)) (by decide)
    have one := reads (digitScalar '1' rfl) 1 (.natural ['1'] (by decide) (by decide)) (by decide)
    exact absurd ((zero.symm.trans (always _)).trans ((always _).symm.trans one)) (by decide)
  · intro leads number count written inRange
    exact bus_count_reached object.leading object.trailing _ _ leads number count written inRange

def noSpace : Spaces := ⟨[], nofun⟩

def plainBody (text : List Char) (plain : text.all (fun c => c != '"' && c != '\\') = true) : Body :=
  ⟨text, well_quoted_plain text plain⟩

def sessionName : Body := plainBody kSession (by decide +kernel)

def busCountName : Body := plainBody kBusCount (by decide +kernel)

def nestedMember : Member :=
  .mk noSpace (plainBody ['u', 's', 'e', 'r'] rfl) noSpace noSpace
    (.object (.mk noSpace sessionName noSpace noSpace (.string (plainBody ['o', 'l', 'd'] rfl)) noSpace) []) noSpace

def nestedStart : StartObject where
  leading := noSpace
  members :=
    [nestedMember, .mk noSpace sessionName noSpace noSpace (.string (plainBody ['n', 'e', 'w'] rfl)) noSpace,
      .mk noSpace busCountName noSpace noSpace (.scalar (digitScalar '2' rfl)) noSpace]
  trailing := noSpace
  session := ⟨[nestedMember], _, noSpace, sessionName, noSpace, noSpace, _, noSpace, rfl, rfl⟩
  body := plainBody ['n', 'e', 'w'] rfl
  unescaped := by decide
  isString := rfl
  busCount := ⟨[nestedMember, _], [], noSpace, busCountName, noSpace, noSpace, _, noSpace, rfl, rfl⟩
  number := digitScalar '2' rfl
  count := 2
  written := .natural ['2'] (by decide) (by decide)
  inRange := by decide
  isNumber := rfl

theorem nested_session_read :
    nestedStart.text = "\x7b\"user\":\x7b\"session\":\"old\"\x7d,\"session\":\"new\",\"bus_count\":2\x7d".toList ∧
      parseRelayStartResponse nestedStart.text = ⟨['o', 'l', 'd'], 2⟩ ∧ nestedStart.body.text = ['n', 'e', 'w'] ∧
      ¬ ∀ object : StartObject, parseRelayStartResponse object.text = ⟨object.body.text, object.count⟩ := by
  have read : parseRelayStartResponse nestedStart.text = ⟨['o', 'l', 'd'], 2⟩ := by decide +kernel
  refine ⟨by decide +kernel, read, by decide, ?_⟩
  intro always
  exact absurd (read.symm.trans (always nestedStart)) (by decide)

end EncosDriver.Relay
