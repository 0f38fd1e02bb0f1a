import Mathlib.Data.List.Basic

/-! A program reads its arguments out of one text: blanks end an argument outside quotes, and backslashes
escape the quote behind them. An argument that is quoted is read back, whatever it holds. -/
namespace GjcRemote.CommandLine

open List

/-- The units that have a meaning in a command line. -/
structure Marks (α : Type) where
  quote : α
  slash : α
  blank : α → Bool
  slash_ne : slash ≠ quote
  blank_quote : blank quote = false
  blank_slash : blank slash = false

variable {α : Type} [DecidableEq α] (m : Marks α)

/-- What is written for the rest of an argument, after `slashes` that are still to be written. -/
def escape (slashes : Nat) : List α → List α
  | [] => replicate (slashes * 2) m.slash ++ [m.quote]
  | u :: rest =>
    if u = m.slash then escape (slashes + 1) rest
    else if u = m.quote then replicate (slashes * 2 + 1) m.slash ++ m.quote :: escape 0 rest
    else replicate slashes m.slash ++ u :: escape 0 rest

def quoteArgument (argument : List α) : List α := m.quote :: escape m 0 argument

/-- The arguments from here on, inside quotes or not, after `slashes` backslashes: an even number of them
lets a quote begin or end, and after an odd number it belongs to the argument. -/
def splitFrom (quoted : Bool) (slashes : Nat) (argument : Option (List α)) : List α → List (List α)
  | [] =>
    if slashes = 0 then argument.toList
    else [argument.getD [] ++ replicate slashes m.slash]
  | u :: rest =>
    if u = m.slash then splitFrom quoted (slashes + 1) argument rest
    else if u = m.quote then
      let held := argument.getD [] ++ replicate (slashes / 2) m.slash
      if slashes % 2 = 0 then splitFrom (!quoted) 0 (some held) rest
      else splitFrom quoted 0 (some (held ++ [m.quote])) rest
    else if m.blank u && !quoted then
      if slashes = 0 then argument.toList ++ splitFrom false 0 none rest
      else (argument.getD [] ++ replicate slashes m.slash) :: splitFrom false 0 none rest
    else splitFrom quoted 0 (some (argument.getD [] ++ replicate slashes m.slash ++ [u])) rest

/-- The name of the program, in which backslashes escape nothing, and what follows it. -/
def programName : List α → List α × List α
  | [] => ([],[])
  | u :: rest =>
    if u = m.quote then (rest.takeWhile (· ≠ m.quote),(rest.dropWhile (· ≠ m.quote)).tail)
    else ((u :: rest).takeWhile (!m.blank ·),(u :: rest).dropWhile (!m.blank ·))

def commandLineToArgv (line : List α) : List (List α) :=
  (programName m line).1 :: splitFrom m false 0 none (programName m line).2

variable {m}

theorem splitFrom_slashes (quoted : Bool) (slashes n : Nat) (argument : Option (List α)) (rest : List α) :
    splitFrom m quoted slashes argument (replicate n m.slash ++ rest) =
      splitFrom m quoted (slashes + n) argument rest := by
  induction n generalizing slashes with
  | zero => rfl
  | succ n ih =>
    rw [replicate_succ,cons_append,splitFrom,if_pos rfl,ih]
    congr 1
    omega

/-- Inside its quotes an argument is read up to the closing quote. -/
theorem splitFrom_escape (slashes : Nat) (held text rest : List α) :
    splitFrom m true 0 (some held) (escape m slashes text ++ rest) =
      splitFrom m false 0 (some (held ++ replicate slashes m.slash ++ text)) rest := by
  have quote_ne : m.quote ≠ m.slash := Ne.symm m.slash_ne
  induction text generalizing slashes held with
  | nil =>
    have even : slashes * 2 % 2 = 0 := by omega
    have half : slashes * 2 / 2 = slashes := by omega
    rw [escape,append_assoc,splitFrom_slashes,Nat.zero_add,singleton_append,splitFrom,if_neg quote_ne,if_pos rfl]
    simp [even,half]
  | cons u text ih =>
    rw [escape]
    split
    · next same =>
      rw [ih,same,replicate_succ']
      simp
    split
    · next same =>
      have odd : ¬(slashes * 2 + 1) % 2 = 0 := by omega
      have half : (slashes * 2 + 1) / 2 = slashes := by omega
      rw [append_assoc,splitFrom_slashes,Nat.zero_add,cons_append,splitFrom,if_neg quote_ne,if_pos rfl]
      simp only [odd,half,if_false,Option.getD_some]
      rw [ih,same]
      simp
    · next slash quote =>
      rw [append_assoc,splitFrom_slashes,Nat.zero_add,cons_append,splitFrom,if_neg slash,if_neg quote]
      simp only [Bool.not_true,Bool.and_false,Bool.false_eq_true,if_false,Option.getD_some]
      rw [ih]
      simp

theorem splitFrom_quoteArgument (text rest : List α) :
    splitFrom m false 0 none (quoteArgument m text ++ rest) = splitFrom m false 0 (some text) rest := by
  rw [quoteArgument,cons_append,splitFrom,if_neg (Ne.symm m.slash_ne),if_pos rfl]
  have read := @splitFrom_escape α _ m 0 [] text rest
  simpa using read

/-- Quoted arguments behind blanks are read one by one. -/
theorem splitFrom_quoted (blank : m.blank space = true) (argument : Option (List α)) (arguments : List (List α)) :
    splitFrom m false 0 argument (arguments.flatMap fun text => space :: quoteArgument m text) =
      argument.toList ++ arguments := by
  have slash : space ≠ m.slash := fun same => Bool.false_ne_true (m.blank_slash.symm.trans (same ▸ blank))
  have quote : space ≠ m.quote := fun same => Bool.false_ne_true (m.blank_quote.symm.trans (same ▸ blank))
  induction arguments generalizing argument with
  | nil => simp [splitFrom]
  | cons text rest ih =>
    rw [flatMap_cons,cons_append,splitFrom,if_neg slash,if_neg quote]
    simp only [blank,Bool.not_false,Bool.and_true,if_true]
    rw [splitFrom_quoteArgument,ih]
    rfl

/-- A text without quotes that ends in no backslash is quoted as it is. -/
theorem escape_plain (plain : m.quote ∉ text) (last : text.getLast? ≠ some m.slash) :
    escape m 0 text = text ++ [m.quote] := by
  have waits (slashes : Nat) (text : List α) (plain : m.quote ∉ text) (ends : text = [] → slashes = 0)
      (last : text.getLast? ≠ some m.slash) :
      escape m slashes text = replicate slashes m.slash ++ text ++ [m.quote] := by
    induction text generalizing slashes with
    | nil => simp [escape,ends rfl]
    | cons u rest ih =>
      obtain ⟨apart,plain⟩ := not_or.mp (mt mem_cons.mpr plain)
      have later : rest.getLast? ≠ some m.slash := by
        intro found
        rw [getLast?_cons,found] at last
        exact last rfl
      rw [escape]
      split
      · next same =>
        have more : rest ≠ [] := by
          rintro rfl
          exact last (by rw [same]; rfl)
        rw [ih (slashes + 1) plain (fun empty => absurd empty more) later,replicate_succ',same]
        simp
      rw [if_neg (Ne.symm apart),ih 0 plain (fun _ => rfl) later]
      simp
  simpa using waits 0 text plain (fun _ => rfl) last

/-- A command line is read back whose program name needs no escape. -/
theorem commandLineToArgv_quoted (blank : m.blank space = true) (plain : m.quote ∉ program)
    (last : program.getLast? ≠ some m.slash) (arguments : List (List α)) :
    commandLineToArgv m (quoteArgument m program ++ arguments.flatMap fun text => space :: quoteArgument m text) =
      program :: arguments := by
  have unquoted : ∀ u ∈ program, decide (u ≠ m.quote) = true :=
    fun u member => decide_eq_true fun same => plain (same ▸ member)
  generalize behind : (arguments.flatMap fun text => space :: quoteArgument m text) = after
  have first : (program ++ m.quote :: after).takeWhile (· ≠ m.quote) = program := by
    rw [takeWhile_append_of_pos unquoted]
    simp
  have later : (program ++ m.quote :: after).dropWhile (· ≠ m.quote) = m.quote :: after := by
    rw [dropWhile_append_of_pos unquoted]
    simp
  rw [quoteArgument,escape_plain plain last,cons_append,append_assoc,singleton_append,commandLineToArgv,programName,
    if_pos rfl,first,later,tail_cons,← behind,splitFrom_quoted blank]
  rfl

end GjcRemote.CommandLine
