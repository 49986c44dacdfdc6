import EncosDriver.Lib.Shell

set_option autoImplicit false

namespace EncosDriver.Broker

open Lib

def shellQuote (v : Octets) : Octets :=
  [0x27] ++ (v.flatMap fun c => if c = 0x27 then [0x27, 0x5C, 0x27, 0x27] else [c]) ++ [0x27]

def joinShellCommand (args : List Octets) : Octets := [(0x20 : UInt8)].intercalate (args.map shellQuote)

theorem lex_quote (tokens : List Shell.Token) (v : Octets) :
    (shellQuote v).foldl Shell.step { tokens := tokens } =
      { tokens := tokens, word := some (v.map fun byte => (byte, true)) } := by
  have opened : [0x27].foldl Shell.step { tokens := tokens } = { tokens := tokens, word := some [], mode := .single } := rfl
  rw [shellQuote, List.foldl_append, List.foldl_append, opened,
    Shell.lex_single { tokens := tokens, word := some [], mode := .single } [] v rfl rfl]
  rfl

theorem lex_join (tokens : List Shell.Token) (arg : Octets) (args : List Octets) :
    ((joinShellCommand (arg :: args)).foldl Shell.step { tokens := tokens }).mode = .bare ∧
      ((joinShellCommand (arg :: args)).foldl Shell.step { tokens := tokens }).delimit.tokens =
        tokens ++ (arg :: args).map Shell.quotedWord := by
  induction args generalizing tokens arg with
  | nil =>
    have single : joinShellCommand [arg] = shellQuote arg := List.intercalate_singleton
    rw [single, lex_quote]
    exact ⟨rfl, rfl⟩
  | cons next args ih =>
    have split : joinShellCommand (arg :: next :: args) = shellQuote arg ++ 0x20 :: joinShellCommand (next :: args) := by
      rw [joinShellCommand, List.map_cons, List.map_cons, List.intercalate_cons_cons, List.append_assoc]
      rfl
    -- The space is outside all quotes, and so it ends the word.
    have ended : Shell.step { tokens := tokens, word := some (arg.map fun byte => (byte, true)) } 0x20 =
        { tokens := tokens ++ [Shell.quotedWord arg] } := rfl
    obtain ⟨bare, words⟩ := ih (tokens ++ [Shell.quotedWord arg]) next
    rw [split, List.foldl_append, lex_quote, List.foldl_cons, ended]
    refine ⟨bare, words.trans ?_⟩
    rw [List.append_assoc]
    rfl

variable (args : List Octets)

theorem join_lexed : Shell.lex (joinShellCommand args) = some (args.map Shell.quotedWord) := by
  cases args with
  | nil => rfl
  | cons arg args =>
    obtain ⟨bare, words⟩ := lex_join [] arg args
    rw [Shell.lex, if_pos (.inl bare), words, List.nil_append]

theorem quoted_without_nul (v : Octets) (textual : 0 ∉ v) : 0 ∉ shellQuote v := by
  rw [shellQuote, List.mem_append, List.mem_append, List.mem_flatMap]
  rintro ((opening | ⟨byte, inside, nul⟩) | closing)
  · exact absurd opening (by decide)
  · split at nul
    · exact absurd nul (by decide)
    · rw [List.mem_singleton.mp nul] at textual
      exact textual inside
  · exact absurd closing (by decide)

theorem join_without_nul (textual : ∀ arg ∈ args, 0 ∉ arg) : 0 ∉ joinShellCommand args := by
  induction args with
  | nil => exact List.not_mem_nil
  | cons arg args ih =>
    have following := ih fun other inside => textual other (List.mem_cons_of_mem _ inside)
    have quoted := quoted_without_nul arg (textual arg List.mem_cons_self)
    cases args with
    | nil =>
      rw [joinShellCommand, List.map_singleton, List.intercalate_singleton]
      exact quoted
    | cons next args =>
      rw [joinShellCommand, List.map_cons] at following ⊢
      rw [List.map_cons, List.intercalate_cons_cons, List.mem_append, List.mem_append]
      rintro ((inside | space) | behind)
      · exact quoted inside
      · exact absurd space (by decide)
      · exact following behind

theorem shell_command_faithful (textual : ∀ arg ∈ args, 0 ∉ arg) :
    0 ∉ joinShellCommand args ∧ Shell.lex (joinShellCommand args) = some (args.map Shell.quotedWord) ∧
      Shell.command (joinShellCommand args) = some args :=
  ⟨join_without_nul args textual, join_lexed args, Shell.command_quoted _ args (join_lexed args)⟩

/-- The arguments are empty, a quote next to a quote, and a line that would run a second command. -/
theorem shell_command_injected :
    let args : List Octets := [[], [0x27, 0x27], [0x3B, 0x0A, 0x24, 0x28, 0x72, 0x6D, 0x29]]
    0 ∉ joinShellCommand args ∧ Shell.lex (joinShellCommand args) = some (args.map Shell.quotedWord) ∧
      Shell.command (joinShellCommand args) = some args :=
  shell_command_faithful [[], [0x27, 0x27], [0x3B, 0x0A, 0x24, 0x28, 0x72, 0x6D, 0x29]] (by simp)

end EncosDriver.Broker
