import Mathlib.Data.List.Basic

set_option autoImplicit false

namespace EncosDriver.Lib.Csv

structure Dialect (Symbol : Type) where
  comma : Symbol
  quote : Symbol
  lineFeed : Symbol
  carriageReturn : Symbol
  comma_quote : comma ≠ quote
  comma_lineFeed : comma ≠ lineFeed
  lineFeed_quote : lineFeed ≠ quote

inductive Place where
  | start
  | plain
  | quoted
  | closing
deriving DecidableEq

variable {Symbol : Type}

structure State (Symbol : Type) where
  rows : List (List (List Symbol)) := []
  fields : List (List Symbol) := []
  field : List Symbol := []
  place : Place := .start
deriving DecidableEq

def State.endField (state : State Symbol) : State Symbol :=
  { state with fields := state.fields ++ [state.field], field := [], place := .start }

def State.endRow (state : State Symbol) : State Symbol :=
  { rows := state.rows ++ [state.fields ++ [state.field]] }

section Reader

variable [DecidableEq Symbol] (dialect : Dialect Symbol)

-- A quote in a quoted field ends it or is half of a doubled one. Outside, only
-- an empty field takes one, and a bare carriage return is no text.
def step (state : State Symbol) (symbol : Symbol) : Option (State Symbol) :=
  match state.place with
  | .quoted =>
    if symbol = dialect.quote then some { state with place := .closing }
    else some { state with field := state.field ++ [symbol] }
  | place =>
    if symbol = dialect.comma then some state.endField
    else if symbol = dialect.lineFeed then some state.endRow
    else if symbol = dialect.quote then
      match place with
      | .start => some { state with place := .quoted }
      | .closing => some { state with field := state.field ++ [symbol], place := .quoted }
      | _ => none
    else if symbol = dialect.carriageReturn then none
    else if place = .closing then none
    else some { state with field := state.field ++ [symbol], place := .plain }

def finish (state : State Symbol) : Option (List (List (List Symbol))) :=
  match state.place with
  | .quoted => none
  | .start => if state.fields = [] then some state.rows else some state.endRow.rows
  | _ => some state.endRow.rows

def run (state : State Symbol) (text : List Symbol) : Option (State Symbol) := text.foldlM (step dialect) state

def read (text : List Symbol) : Option (List (List (List Symbol))) := (run dialect {} text).bind finish

variable (state : State Symbol)

theorem run_append (first second : List Symbol) :
    run dialect state (first ++ second) = (run dialect state first).bind fun next => run dialect next second :=
  List.foldlM_append

theorem run_cons (symbol : Symbol) (rest : List Symbol) :
    run dialect state (symbol :: rest) = (step dialect state symbol).bind fun next => run dialect next rest :=
  List.foldlM_cons

inductive Stands : List Symbol → List Symbol → Prop where
  | plain (field : List Symbol)
      (textual : ∀ symbol ∈ field, symbol ≠ dialect.comma ∧ symbol ≠ dialect.quote ∧ symbol ≠ dialect.lineFeed ∧
        symbol ≠ dialect.carriageReturn) :
      Stands field field
  | quoted (field : List Symbol) :
      Stands field ([dialect.quote] ++ (field.flatMap fun symbol => if symbol = dialect.quote then [dialect.quote, symbol] else [symbol]) ++
        [dialect.quote])

theorem run_plain (field : List Symbol)
    (textual : ∀ symbol ∈ field, symbol ≠ dialect.comma ∧ symbol ≠ dialect.quote ∧ symbol ≠ dialect.lineFeed ∧
      symbol ≠ dialect.carriageReturn)
    (outside : state.place = .start ∨ state.place = .plain) :
    ∃ place, place ≠ .quoted ∧ run dialect state field = some { state with field := state.field ++ field, place := place } := by
  induction field generalizing state with
  | nil =>
    refine ⟨state.place, ?_, ?_⟩
    · rcases outside with start | plain
      · exact start ▸ nofun
      · exact plain ▸ nofun
    · rw [List.append_nil]
      rfl
  | cons symbol field ih =>
    obtain ⟨notComma, notQuote, notFeed, notReturn⟩ := textual symbol List.mem_cons_self
    have taken : step dialect state symbol = some { state with field := state.field ++ [symbol], place := .plain } := by
      rcases outside with start | plain
      · simp [step, start, notComma, notQuote, notFeed, notReturn]
      · simp [step, plain, notComma, notQuote, notFeed, notReturn]
    obtain ⟨place, unquoted, finished⟩ := ih { state with field := state.field ++ [symbol], place := .plain }
      (fun other inside => textual other (List.mem_cons_of_mem _ inside)) (.inr rfl)
    refine ⟨place, unquoted, ?_⟩
    rw [run_cons, taken, Option.bind_some, finished, List.append_assoc, List.singleton_append]

theorem run_body (field : List Symbol) (inside : state.place = .quoted) :
    run dialect state (field.flatMap fun symbol => if symbol = dialect.quote then [dialect.quote, symbol] else [symbol]) =
      some { state with field := state.field ++ field } := by
  induction field generalizing state with
  | nil =>
    rw [List.append_nil]
    rfl
  | cons symbol field ih =>
    have taken : run dialect state (if symbol = dialect.quote then [dialect.quote, symbol] else [symbol]) =
        some { state with field := state.field ++ [symbol] } := by
      by_cases doubled : symbol = dialect.quote
      · subst doubled
        simp [step, inside, dialect.comma_quote.symm, dialect.lineFeed_quote.symm, run]
      · simp [step, inside, doubled, run]
    rw [List.flatMap_cons, run_append, taken, Option.bind_some, ih { state with field := state.field ++ [symbol] } inside,
      List.append_assoc, List.singleton_append]

theorem run_field (field text : List Symbol) (stands : Stands dialect field text)
    (start : state.place = .start) (fresh : state.field = []) :
    ∃ place, place ≠ .quoted ∧ run dialect state text = some { state with field := field, place := place } := by
  cases stands with
  | plain textual =>
    obtain ⟨place, outside, finished⟩ := run_plain dialect state field textual (.inl start)
    rw [fresh, List.nil_append] at finished
    exact ⟨place, outside, finished⟩
  | quoted =>
    refine ⟨.closing, nofun, ?_⟩
    have opened : run dialect state [dialect.quote] = some { state with place := .quoted } := by
      simp [step, start, dialect.comma_quote.symm, dialect.lineFeed_quote.symm, run]
    have closed : run dialect { state with field := field, place := .quoted } [dialect.quote] =
        some { state with field := field, place := .closing } := by
      simp [step, run]
    rw [run_append, run_append, opened, Option.bind_some, run_body dialect { state with place := .quoted } field rfl, Option.bind_some, fresh,
      List.nil_append, closed]

theorem step_comma (outside : state.place ≠ .quoted) : step dialect state dialect.comma = some state.endField := by
  cases standing : state.place with
  | quoted => exact absurd standing outside
  | start | plain | closing => simp [step, standing]

theorem step_line_feed (outside : state.place ≠ .quoted) : step dialect state dialect.lineFeed = some state.endRow := by
  cases standing : state.place with
  | quoted => exact absurd standing outside
  | start | plain | closing => simp [step, standing, dialect.comma_lineFeed.symm]

theorem run_fields (rows : List (List (List Symbol))) (before : List (List Symbol)) (field : List Symbol) (text : List Symbol)
    (fields texts : List (List Symbol)) (stands : Stands dialect field text) (others : List.Forall₂ (Stands dialect) fields texts) :
    run dialect { rows := rows, fields := before } ([dialect.comma].intercalate (text :: texts) ++ [dialect.lineFeed]) =
      some { rows := rows ++ [before ++ field :: fields] } := by
  induction others generalizing before field text with
  | nil =>
    obtain ⟨place, outside, finished⟩ := run_field dialect { rows := rows, fields := before } field text stands rfl rfl
    rw [List.intercalate_singleton, run_append, finished, Option.bind_some, run_cons, step_line_feed dialect _ outside]
    rfl
  | @cons next following fields texts first rest ih =>
    obtain ⟨place, outside, finished⟩ := run_field dialect { rows := rows, fields := before } field text stands rfl rfl
    have split : [dialect.comma].intercalate (text :: following :: texts) ++ [dialect.lineFeed] =
        text ++ (dialect.comma :: ([dialect.comma].intercalate (following :: texts) ++ [dialect.lineFeed])) := by
      rw [List.intercalate_cons_cons, List.append_assoc, List.append_assoc]
      rfl
    have ended : run dialect { rows := rows, fields := before ++ [field] }
        ([dialect.comma].intercalate (following :: texts) ++ [dialect.lineFeed]) =
          some { rows := rows ++ [before ++ [field] ++ next :: fields] } := ih (before ++ [field]) next following first
    rw [split, run_append, finished, Option.bind_some, run_cons, step_comma dialect _ outside, Option.bind_some]
    refine ended.trans ?_
    rw [List.append_assoc, List.singleton_append]

inductive Rows : List (List (List Symbol)) → List Symbol → Prop where
  | nil : Rows [] []
  | cons (field text : List Symbol) (fields texts : List (List Symbol)) (rows : List (List (List Symbol))) (rest : List Symbol)
      (stands : Stands dialect field text) (others : List.Forall₂ (Stands dialect) fields texts) (following : Rows rows rest) :
      Rows ((field :: fields) :: rows) ([dialect.comma].intercalate (text :: texts) ++ [dialect.lineFeed] ++ rest)

theorem run_rows (before rows : List (List (List Symbol))) (text : List Symbol) (written : Rows dialect rows text) :
    run dialect { rows := before } text = some { rows := before ++ rows } := by
  induction written generalizing before with
  | nil =>
    rw [List.append_nil]
    rfl
  | cons field text fields texts rows rest stands others following ih =>
    rw [run_append, run_fields dialect before [] field text fields texts stands others, Option.bind_some, ih, List.append_assoc]
    rfl

theorem read_rows (rows : List (List (List Symbol))) (text : List Symbol) (written : Rows dialect rows text) :
    read dialect text = some rows := by
  rw [read, run_rows dialect [] rows text written, Option.bind_some, List.nil_append]
  rfl

end Reader

end EncosDriver.Lib.Csv
