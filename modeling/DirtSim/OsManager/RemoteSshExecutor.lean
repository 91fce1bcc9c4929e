import DirtSim.Foundation.ShellWords
import Mathlib.Data.List.TakeWhile

/-! # Command lines for a remote shell

A remote command is sent as one string that the shell on the other side splits again. Every argument
is put between single quotes, and a quote inside it is written outside of them.
-/

namespace DirtSim.OsManager

open Foundation Foundation.Shell

def shellEscapeArg (arg : List UInt8) : List UInt8 :=
  if arg.isEmpty then [singleQuote, singleQuote]
  else
    [singleQuote] ++
      (arg.flatMap fun ch =>
        if ch = singleQuote then [singleQuote, backslash, singleQuote, singleQuote] else [ch]) ++
      [singleQuote]

def buildCommandString : List (List UInt8) → List UInt8
  | [] => []
  | arg :: argv => shellEscapeArg arg ++ argv.flatMap fun arg => [space] ++ shellEscapeArg arg

theorem scan_shellEscapeArg (arg : List UInt8) (done : List Token) :
    scan { mode := .plain, current := none, tokens := done } (shellEscapeArg arg) =
      { mode := .plain, current := some (quotedBytes arg), tokens := done } := by
  have inside (bytes : List UInt8) (read : List WordByte) :
      scan { mode := .single, current := some read, tokens := done } (bytes.flatMap fun ch =>
        if ch = singleQuote then [singleQuote, backslash, singleQuote, singleQuote] else [ch]) =
      { mode := .single, current := some (read ++ quotedBytes bytes), tokens := done } := by
    induction bytes generalizing read with
    | nil => rw [List.flatMap_nil, quotedBytes, List.map_nil, List.append_nil]; rfl
    | cons ch bytes ih =>
        have first : scan { mode := .single, current := some read, tokens := done }
            (if ch = singleQuote then [singleQuote, backslash, singleQuote, singleQuote]
              else [ch]) =
            { mode := .single, current := some (read ++ quotedBytes [ch]), tokens := done } := by
          by_cases quote : ch = singleQuote
          · rw [if_pos quote, quote]
            exact scan_reopened read done
          · rw [if_neg quote]
            exact scan_single read done quote
        rw [List.flatMap_cons, scan_append, first, ih, List.append_assoc]
        rfl
  unfold shellEscapeArg
  cases arg with
  | nil => rfl
  | cons ch arg =>
      rw [List.isEmpty_cons, if_neg Bool.false_ne_true, scan_append, scan_append, scan_opened,
        inside, List.nil_append, scan_closed]

theorem scan_arguments (argv : List (List UInt8)) (read : List WordByte) (done : List Token) :
    (scan { mode := .plain, current := some read, tokens := done }
        (argv.flatMap fun arg => [space] ++ shellEscapeArg arg)).finish =
      some (done ++ .word read :: argv.map fun arg => .word (quotedBytes arg)) := by
  induction argv generalizing read done with
  | nil => rfl
  | cons arg argv ih =>
      rw [List.flatMap_cons, scan_append, scan_append, scan_space, scan_shellEscapeArg, ih,
        List.append_assoc]
      rfl

theorem zero_not_mem_shellEscapeArg {arg : List UInt8} (whole : 0 ∉ arg) :
    0 ∉ shellEscapeArg arg := by
  unfold shellEscapeArg
  split
  · decide
  · intro inside
    simp only [List.mem_append, List.mem_flatMap, List.mem_singleton] at inside
    rcases inside with (quote | ⟨ch, member, byte⟩) | quote
    · exact absurd quote (by decide)
    · split at byte
      · revert byte
        decide
      · exact whole (List.mem_singleton.mp byte ▸ member)
    · exact absurd quote (by decide)

theorem zero_not_mem_buildCommandString {argv : List (List UInt8)}
    (whole : ∀ arg ∈ argv, 0 ∉ arg) : 0 ∉ buildCommandString argv := by
  cases argv with
  | nil => exact List.not_mem_nil
  | cons first argv =>
      intro inside
      rcases List.mem_append.mp inside with here | later
      · exact zero_not_mem_shellEscapeArg (whole first List.mem_cons_self) here
      · obtain ⟨arg, member, byte⟩ := List.mem_flatMap.mp later
        rcases List.mem_append.mp byte with separator | argument
        · exact absurd separator (by decide)
        · exact zero_not_mem_shellEscapeArg (whole arg (List.mem_cons_of_mem _ member)) argument

/-- **Remote command lines.** Whatever the arguments are, as long as no zero byte ends the command
early, the shell splits it into exactly these arguments, and none of their bytes means anything to
it. -/
theorem splitsInto_buildCommandString {argv : List (List UInt8)}
    (whole : ∀ arg ∈ argv, 0 ∉ arg) : SplitsInto (buildCommandString argv) argv := by
  apply splitsInto_of_words
  have uncut : (buildCommandString argv).takeWhile (· ≠ 0) = buildCommandString argv := by
    apply List.takeWhile_eq_self_iff.mpr
    intro c inside
    refine decide_eq_true fun zero => ?_
    exact zero_not_mem_buildCommandString whole (zero ▸ inside)
  rw [tokens, uncut]
  cases argv with
  | nil => rfl
  | cons arg argv =>
      rw [buildCommandString, scan_append]
      have first := scan_shellEscapeArg arg []
      rw [show ({} : Scanner) = { mode := .plain, current := none, tokens := [] } from rfl, first]
      exact scan_arguments argv _ _

theorem splitsInto_buildCommandString_quote :
    SplitsInto (buildCommandString [[], [105, 116, 39, 115], [36, 40, 108, 115, 41, 59, 10]])
      [[], [105, 116, 39, 115], [36, 40, 108, 115, 41, 59, 10]] :=
  splitsInto_buildCommandString (by decide)

end DirtSim.OsManager
