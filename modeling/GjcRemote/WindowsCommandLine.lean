import GjcRemote.PlainRecords
import GjcRemote.WindowsLaunch

/-! The text of a launch's arguments is read back, by the rules of the system and by the driver, and a launch
is told by it; the text is there as long as its paths leave room for the names of their variables. -/
namespace GjcRemote.WindowsLaunch

open Utf16 StrictJson Record Envelope CommandLine
open List hiding splitOn get
open ServiceEnvelope (record text isHexDigit DAEMON_SERVICE_KEY isLower isDecimal)
open MappingEnvelope (splitOn isBackslash)
open DeploymentEnvelope (textOf)
open JsText (isSpace)

section Line

theorem serialize_ok : serializeWindowsCommandLine argv = .ok line ↔
    argv ≠ [] ∧ (∀ value ∈ argv, value ≠ [] ∧ byteLength value ≤ argvElementBytes) ∧
      line = [0x20].intercalate (argv.map (quoteArgument windows)) := by
  unfold serializeWindowsCommandLine
  have refusal (value : Units) : (value.isEmpty || decide (argvElementBytes < byteLength value)) = false ↔
      value ≠ [] ∧ byteLength value ≤ argvElementBytes := by
    simp
  split
  · next refused =>
    refine ⟨(by rintro ⟨⟩),fun ⟨filled,fits,_⟩ => ?_⟩
    rcases Bool.or_eq_true_iff.mp refused with empty | wrong
    · exact absurd (List.isEmpty_iff.mp empty) filled
    · obtain ⟨value,member,wrong⟩ := any_eq_true.mp wrong
      rw [(refusal value).mpr (fits value member)] at wrong
      cases wrong
  · next taken =>
    obtain ⟨filled,fits⟩ := Bool.or_eq_false_iff.mp (eq_false_of_ne_true taken)
    refine ⟨fun equal => ⟨?_,fun value member => ?_,(Except.ok.inj equal).symm⟩,fun ⟨_,_,same⟩ => by rw [same]⟩
    · rintro rfl
      cases filled
    · exact (refusal value).mp (eq_false_of_ne_true (any_eq_false.mp fits value member))

theorem escape_cons (slashes : Nat) (u : UInt16) (text : Units) : escape windows slashes (u :: text) =
    if u = 0x5C then escape windows (slashes + 1) text
    else if u = 0x22 then replicate (slashes * 2 + 1) 0x5C ++ 0x22 :: escape windows 0 text
    else replicate slashes 0x5C ++ u :: escape windows 0 text := rfl

theorem line_cons (program : Units) (arguments : List Units) :
    [0x20].intercalate ((program :: arguments).map (quoteArgument windows)) =
      quoteArgument windows program ++ arguments.flatMap fun text => 0x20 :: quoteArgument windows text := by
  induction arguments generalizing program with
  | nil => simp [intercalate]
  | cons second rest ih =>
    have split : [0x20].intercalate ((program :: second :: rest).map (quoteArgument windows)) =
        quoteArgument windows program ++ 0x20 :: [0x20].intercalate ((second :: rest).map (quoteArgument windows)) := by
      simp [intercalate]
    rw [split,ih]
    simp

theorem readArguments_slashes (r : Reading) (args : List Units) (n : Nat) (rest : Units) :
    ∃ quoteLast, readArguments (some r) args (replicate n 0x5C ++ rest) =
      readArguments (some ⟨r.slashes + n,quoteLast,r.value⟩) args rest := by
  induction n generalizing r with
  | zero => exact ⟨r.quoteLast,rfl⟩
  | succ n ih =>
    obtain ⟨quoteLast,read⟩ := ih ⟨r.slashes + 1,false,r.value⟩
    refine ⟨quoteLast,?_⟩
    rw [replicate_succ,cons_append,readArguments,if_pos rfl,read]
    simp only [Nat.add_assoc,Nat.add_comm 1 n]

/-- The driver reads an argument up to its closing quote. -/
theorem readArguments_escape (slashes : Nat) (quoteLast : Bool) (held text rest : Units) (args : List Units) :
    readArguments (some ⟨0,quoteLast,held⟩) args (escape windows slashes text ++ rest) =
      readArguments none (args ++ [held ++ replicate slashes 0x5C ++ text]) rest := by
  have quote_ne : ¬(0x22 : UInt16) = 0x5C := by decide
  induction text generalizing slashes quoteLast held with
  | nil =>
    obtain ⟨_,read⟩ := readArguments_slashes ⟨0,quoteLast,held⟩ args (slashes * 2) (0x22 :: rest)
    have even : ¬slashes * 2 % 2 = 1 := by omega
    have half : slashes * 2 / 2 = slashes := by omega
    have written : escape windows slashes [] ++ rest = replicate (slashes * 2) 0x5C ++ 0x22 :: rest := by
      simp [escape,windows]
    rw [written,read,readArguments,if_neg quote_ne,if_pos rfl]
    simp [half]
  | cons u text ih =>
    by_cases slash : u = 0x5C
    · have written : escape windows slashes (u :: text) = escape windows (slashes + 1) text := by
        rw [escape_cons,if_pos slash]
      rw [written,ih,slash,replicate_succ']
      simp
    by_cases quote : u = 0x22
    · obtain ⟨_,read⟩ := readArguments_slashes ⟨0,quoteLast,held⟩ args (slashes * 2 + 1)
        (0x22 :: (escape windows 0 text ++ rest))
      have odd : (slashes * 2 + 1) % 2 = 1 := by omega
      have half : (slashes * 2 + 1) / 2 = slashes := by omega
      have written : escape windows slashes (u :: text) ++ rest =
          replicate (slashes * 2 + 1) 0x5C ++ 0x22 :: (escape windows 0 text ++ rest) := by
        rw [escape_cons,if_neg slash,if_pos quote]
        simp
      rw [written,read,readArguments,if_neg quote_ne,if_pos rfl]
      simp only [Nat.zero_add,odd,half,if_true]
      rw [ih,quote]
      simp
    · obtain ⟨_,read⟩ := readArguments_slashes ⟨0,quoteLast,held⟩ args slashes (u :: (escape windows 0 text ++ rest))
      have written : escape windows slashes (u :: text) ++ rest =
          replicate slashes 0x5C ++ u :: (escape windows 0 text ++ rest) := by
        rw [escape_cons,if_neg slash,if_neg quote]
        simp
      rw [written,read,readArguments,if_neg slash,if_neg quote,ih]
      simp

theorem readArguments_quoteArgument (text rest : Units) (args : List Units) :
    readArguments none args (quoteArgument windows text ++ rest) = readArguments none (args ++ [text]) rest := by
  have opened : readArguments none args (0x22 :: (escape windows 0 text ++ rest)) =
      readArguments (some ⟨0,true,[]⟩) args (escape windows 0 text ++ rest) := rfl
  have read := readArguments_escape 0 true [] text rest args
  exact opened.trans (by simpa using read)

theorem readArguments_quoted (args arguments : List Units) :
    readArguments none args (arguments.flatMap fun text => 0x20 :: quoteArgument windows text) =
      some (args ++ arguments) := by
  induction arguments generalizing args with
  | nil => simp [readArguments]
  | cons text rest ih =>
    have skipped (later : Units) : readArguments none args (0x20 :: later) = readArguments none args later := rfl
    rw [flatMap_cons,cons_append,skipped,readArguments_quoteArgument,ih,append_assoc,singleton_append]

/-- The driver finds the last argument, when it is a path. -/
theorem commandLineEntrypoint_line (program : Units) (arguments : List Units) (path : Units)
    (last : (program :: arguments).getLast? = some path) (valid : validPath path = true) :
    commandLineEntrypoint ([0x20].intercalate ((program :: arguments).map (quoteArgument windows))) = some path := by
  have read : readArguments none [] ([0x20].intercalate ((program :: arguments).map (quoteArgument windows))) =
      some (program :: arguments) := by
    rw [line_cons,readArguments_quoteArgument,readArguments_quoted]
    rfl
  have filled : ([0x20].intercalate ((program :: arguments).map (quoteArgument windows))).isEmpty = false := by
    rw [line_cons]
    rfl
  rw [commandLineEntrypoint,read,filled,Option.bind_some,last]
  simp [Option.filter,valid]

theorem mem_splitOn (separates : UInt16 → Bool) (member : u ∈ path) :
    separates u = true ∨ ∃ part ∈ splitOn separates path, u ∈ part := by
  induction path with
  | nil => cases member
  | cons v rest ih =>
    rw [splitOn]
    rcases mem_cons.mp member with rfl | later
    · by_cases here : separates u = true
      · exact .inl here
      · rw [if_neg here]
        refine .inr ?_
        split
        · exact ⟨_,mem_cons_self,mem_cons_self⟩
        · exact ⟨_,mem_cons_self,mem_cons_self⟩
    · rcases ih later with found | ⟨part,listed,inside⟩
      · exact .inl found
      refine .inr ?_
      split
      · exact ⟨part,mem_cons_of_mem _ listed,inside⟩
      split
      · next segment others shown =>
        rw [shown] at listed
        rcases mem_cons.mp listed with rfl | other
        · exact ⟨_,mem_cons_self,mem_cons_of_mem _ inside⟩
        · exact ⟨part,mem_cons_of_mem _ other,inside⟩
      · next shown =>
        rw [shown] at listed
        cases listed

/-- A canonical path has no quote and ends in no backslash. -/
theorem canonicalPath_plain (canonical : canonicalPath path = true) :
    0x22 ∉ path ∧ path.getLast? ≠ some 0x5C := by
  simp only [canonicalPath,Bool.and_eq_true,bne_iff_ne,all_eq_true] at canonical
  obtain ⟨⟨⟨⟨_,drive⟩,_⟩,last⟩,parts⟩ := canonical
  refine ⟨fun quote => ?_,last⟩
  rcases path with _ | ⟨letter,_ | ⟨colon,_ | ⟨slash,rest⟩⟩⟩
  · cases quote
  · cases drive
  · cases drive
  · simp only [opensDrive,Bool.and_eq_true,decide_eq_true_eq,beq_iff_eq] at drive
    obtain ⟨⟨⟨from',_⟩,rfl⟩,rfl⟩ := drive
    rcases mem_cons.mp quote with rfl | quote
    · exact absurd from' (by decide)
    rcases mem_cons.mp quote with same | quote
    · cases same
    rcases mem_cons.mp quote with same | quote
    · cases same
    rcases mem_splitOn isBackslash quote with separator | ⟨part,listed,inside⟩
    · cases separator
    have valid := parts part listed
    simp only [validPart,Bool.and_eq_true,Bool.not_eq_true',any_eq_false] at valid
    exact valid.1.2 _ inside (by decide)

end Line

end GjcRemote.WindowsLaunch
