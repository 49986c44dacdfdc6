import Mathlib.Data.List.Basic

set_option autoImplicit false

namespace EncosDriver.Lib.JsonText

def isSpace (c : Char) : Bool := c == ' ' || c == '\t' || c == '\n' || c == '\r'

structure Spaces where
  text : List Char
  blank : ∀ c ∈ text, isSpace c = true

inductive WellQuoted : List Char → Prop where
  | done : WellQuoted []
  | plain (c : Char) (rest : List Char) (notQuote : c ≠ '"') (notEscape : c ≠ '\\') (following : WellQuoted rest) :
      WellQuoted (c :: rest)
  | escape (c : Char) (rest : List Char) (following : WellQuoted rest) : WellQuoted ('\\' :: c :: rest)

theorem well_quoted_plain (text : List Char) (plain : text.all (fun c => c != '"' && c != '\\') = true) : WellQuoted text := by
  induction text with
  | nil => exact .done
  | cons c rest ih =>
    rw [List.all_cons, Bool.and_eq_true, Bool.and_eq_true, bne_iff_ne, bne_iff_ne] at plain
    exact .plain c rest plain.1.1 plain.1.2 (ih plain.2)

structure Body where
  text : List Char
  wellQuoted : WellQuoted text

def isScalarChar (c : Char) : Bool := c.isAlphanum || c == '+' || c == '-' || c == '.'

structure Scalar where
  text : List Char
  present : text ≠ []
  plain : ∀ c ∈ text, isScalarChar c = true

mutual

inductive Json where
  | scalar (text : Scalar)
  | string (body : Body)
  | emptyArray (space : Spaces)
  | array (first : Element) (rest : List Element)
  | emptyObject (space : Spaces)
  | object (first : Member) (rest : List Member)

inductive Element where
  | mk (before : Spaces) (value : Json) (behind : Spaces)

inductive Member where
  | mk (before : Spaces) (name : Body) (gap space : Spaces) (value : Json) (behind : Spaces)

end

def quoted (text : List Char) : List Char := '"' :: text ++ ['"']

mutual

def Json.render : Json → List Char
  | .scalar text => text.text
  | .string body => quoted body.text
  | .emptyArray space => '[' :: space.text ++ [']']
  | .array first rest => '[' :: first.render ++ elementsBehind rest ++ [']']
  | .emptyObject space => '{' :: space.text ++ ['}']
  | .object first rest => '{' :: first.render ++ membersBehind rest ++ ['}']

def Element.render : Element → List Char
  | .mk before value behind => before.text ++ value.render ++ behind.text

def elementsBehind : List Element → List Char
  | [] => []
  | element :: rest => ',' :: element.render ++ elementsBehind rest

def Member.render : Member → List Char
  | .mk before name gap space value behind =>
    before.text ++ quoted name.text ++ gap.text ++ ':' :: space.text ++ value.render ++ behind.text

def membersBehind : List Member → List Char
  | [] => []
  | member :: rest => ',' :: member.render ++ membersBehind rest

end

def objectText (leading : Spaces) (members : List Member) (trailing : Spaces) : List Char :=
  leading.text ++ '{' :: (match members with
    | [] => []
    | first :: rest => first.render ++ membersBehind rest) ++ '}' :: trailing.text

def frontText (leading : Spaces) (earlier : List Member) (before : Spaces) : List Char :=
  leading.text ++ '{' :: ((earlier.flatMap fun member => member.render ++ [',']) ++ before.text)

theorem members_behind_append (earlier later : List Member) (member : Member) :
    membersBehind (earlier ++ member :: later) =
      ',' :: ((earlier.flatMap fun member => member.render ++ [',']) ++ member.render ++ membersBehind later) := by
  induction earlier with
  | nil => rfl
  | cons first earlier ih =>
    rw [List.cons_append, membersBehind, ih]
    simp

theorem object_text_at (leading trailing before gap space behind : Spaces) (name : Body) (earlier later : List Member) :
    ∃ stop rest, (stop = ',' ∨ stop = '}') ∧ ∀ value : Json,
      objectText leading (earlier ++ .mk before name gap space value behind :: later) trailing =
        frontText leading earlier before ++
          (quoted name.text ++ (gap.text ++ ':' :: (space.text ++ (value.render ++ (behind.text ++ stop :: rest))))) := by
  obtain ⟨stop, rest, ends, shape⟩ : ∃ stop rest, (stop = ',' ∨ stop = '}') ∧
      membersBehind later ++ '}' :: trailing.text = stop :: rest := by
    cases later with
    | nil => exact ⟨'}', trailing.text, .inr rfl, rfl⟩
    | cons first later => exact ⟨',', _, .inl rfl, rfl⟩
  refine ⟨stop, rest, ends, ?_⟩
  intro value
  rw [← shape]
  cases earlier with
  | nil => simp [objectText, frontText, Member.render]
  | cons first earlier => simp [objectText, frontText, members_behind_append, Member.render]

theorem space_plain (spaces : Spaces) (c : Char) (other : isSpace c = false) : c ∉ spaces.text := by
  intro inside
  exact absurd (other.symm.trans (spaces.blank c inside)) Bool.false_ne_true

theorem scalar_plain (scalar : Scalar) (c : Char) (other : isScalarChar c = false) : c ∉ scalar.text := by
  intro inside
  exact absurd (other.symm.trans (scalar.plain c inside)) Bool.false_ne_true

theorem unescaped_unquoted (body : List Char) (wellQuoted : WellQuoted body) (unescaped : '\\' ∉ body) : '"' ∉ body := by
  induction wellQuoted with
  | done => exact List.not_mem_nil
  | plain c rest notQuote notEscape following ih =>
    rintro inside
    rcases List.mem_cons.mp inside with same | inside
    · exact notQuote same.symm
    · exact ih (fun escaped => unescaped (List.mem_cons_of_mem _ escaped)) inside
  | escape c rest following ih => exact absurd List.mem_cons_self unescaped

theorem front_text_comma (leading before : Spaces) (earlier : List Member) (present : earlier ≠ []) :
    ∃ front, frontText leading earlier before = front ++ ',' :: before.text := by
  obtain ⟨others, last, rfl⟩ : ∃ others last, earlier = others ++ [last] :=
    ⟨earlier.dropLast, earlier.getLast present, (List.dropLast_append_getLast present).symm⟩
  exact ⟨leading.text ++ '{' :: ((others.flatMap fun member => member.render ++ [',']) ++ last.render), by simp [frontText]⟩

end EncosDriver.Lib.JsonText
