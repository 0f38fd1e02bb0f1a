import GjcRemote.JsText
import GjcRemote.PathNames
import GjcRemote.RecordBytes

/-! A response in Discord messages: none is too long and no chunk leaves a fence open, but a blank line
that would start a chunk is lost, and a line that would just fit is cut. -/
namespace GjcRemote.Delivery

open Utf16 StrictJson PathNames List

def CHUNK_LIMIT : Nat := 1900

def MAX_CHUNKS : Nat := 7

def newline : UInt16 := 0x0A

def fence : Units := [0x60,0x60,0x60]

/-- The test `/^\s*\x60{3}/` of a line. -/
def isFence (line : Units) : Bool := fence.isPrefixOf (JsText.trimStart line)

/-- `line.slice(i, i + budget)` for every `i` a budget apart. -/
def slices (budget : Nat) (line : Units) : List Units :=
  (range ((line.length + budget - 1) / budget)).map fun k => (line.drop (k * budget)).take budget

def cutLine (budget : Nat) (line : Units) : List Units :=
  if line.length ≤ budget then [line] else slices budget line

def linesOf (budget : Nat) (text : Units) : List Units := (text.splitOn newline).flatMap (cutLine budget)

structure Split where
  chunks : List Units
  current : Units
  inFence : Bool

def Split.flush (s : Split) : Split :=
  if s.current = [] then s
  else
    ⟨s.chunks ++ [if s.inFence then s.current ++ newline :: fence else s.current],
      if s.inFence then fence else [],s.inFence⟩

/-- The line does not fit into the current chunk, with the fence that would close it. -/
def Split.overflows (limit : Nat) (s : Split) (line : Units) : Bool :=
  let projected := if s.current = [] then line.length else s.current.length + 1 + line.length
  let reserve := if s.inFence then 4 else 0
  s.current ≠ [] ∧ limit < projected + reserve

def Split.room (limit : Nat) (s : Split) (line : Units) : Split :=
  if s.overflows limit line then s.flush else s

/-- The line joins the current chunk. -/
def Split.append (s : Split) (line : Units) : Split :=
  ⟨s.chunks,if s.current = [] then line else s.current ++ newline :: line,
    if isFence line then !s.inFence else s.inFence⟩

def Split.step (limit : Nat) (s : Split) (line : Units) : Split := (s.room limit line).append line

def splitForDiscord (text : Units) (limit : Nat) : List Units :=
  let s := (linesOf (limit - 8) text).foldl (Split.step limit) ⟨[],[],false⟩
  if s.current = [] then s.chunks else s.chunks ++ [s.current]

/-- The header of a result, of a slash command or of a message. -/
def headerOf (command : Option Units) (ok : Bool) : Units :=
  (match command with
    | some commandName => ofString "**/" ++ commandName
    | none => ofString "**GJC") ++ ofString (if ok then "** result:" else "** failed:")

def partLabel (i count : Nat) : Units :=
  ofString "_(Part " ++ stringifyNumber (.int i) ++ ofString "/" ++ stringifyNumber (.int count) ++ ofString ")_\n"

/-- The texts of the messages that carry a response, the last one if the rest is in an attachment. -/
def deliverResult (header text : Units) : List Units :=
  let body := header ++ newline :: text
  if body.length ≤ CHUNK_LIMIT then [body]
  else
    let chunks := splitForDiscord body CHUNK_LIMIT
    if chunks.length ≤ MAX_CHUNKS then
      chunks.mapIdx fun i chunk => (if 1 < chunks.length then partLabel (i + 1) chunks.length else []) ++ chunk
    else
      [header ++ ofString " (output attached, " ++ stringifyNumber (.int text.length) ++ ofString " chars)"]

/-- How many lines of a text open or close a fence. -/
def fences (text : Units) : Nat := (text.splitOn newline).countP isFence

def isBalanced (chunk : Units) : Prop := fences chunk % 2 = 0

def marks (marked : Bool) : List Units := if marked then [fence] else []

/-- A chunk: lines of its own, between the fences that the splitter inserts. -/
structure Part where
  reopened : Bool
  own : List Units
  closed : Bool

def Part.lines (p : Part) : List Units := marks p.reopened ++ p.own ++ marks p.closed

def Part.text (p : Part) : Units := join newline p.lines

/-- A fence is closed at the end of a chunk where it is opened again at the start of the next one. -/
def Paired : Bool → List Part → Bool → Prop
  | reopened,[],last => last = reopened
  | reopened,p :: parts,last => p.reopened = reopened ∧ Paired p.closed parts last

/-- Without the fences that were inserted the chunks are the lines of the text, of which those that
are longer than the limit are cut. -/
def Restored (limit : Nat) (text : Units) (chunks : List Units) : Prop :=
  ∃ parts pieces, chunks = parts.map Part.text ∧ Paired false parts false ∧
    parts.flatMap Part.own = flatten pieces ∧ pieces.map flatten = text.splitOn newline ∧
    ∀ p ∈ pieces, p = [p.flatten] ∨ limit < p.flatten.length

/-- No blank line comes where the current chunk is empty. -/
def Kept (limit : Nat) : Split → List Units → Prop
  | _,[] => True
  | s,line :: rest => ¬ (line = [] ∧ (s.room limit line).current = []) ∧ Kept limit (s.step limit line) rest

instance decideKept (limit : Nat) : (s : Split) → (lines : List Units) → Decidable (Kept limit s lines)
  | _,[] => isTrue trivial
  | s,line :: rest =>
    have := decideKept limit (s.step limit line) rest
    inferInstanceAs (Decidable (¬ (line = [] ∧ (s.room limit line).current = []) ∧ _))

/-- The lines that a run does not lose. -/
def keptLines (limit : Nat) : Split → List Units → List Units
  | _,[] => []
  | s,line :: rest =>
    (if line = [] ∧ (s.room limit line).current = [] then [] else [line]) ++ keptLines limit (s.step limit line) rest

theorem slices_flatten (positive : 0 < budget) (line : Units) : (slices budget line).flatten = line := by
  have front (n : Nat) :
      ((range n).map fun k => (line.drop (k * budget)).take budget).flatten = line.take (n * budget) := by
    induction n with
    | zero => simp
    | succ n ih => rw [range_succ,map_append,flatten_append,ih,Nat.succ_mul,take_add]; simp
  rw [slices,front,take_of_length_le]
  have whole := Nat.div_add_mod (line.length + budget - 1) budget
  have rest := Nat.mod_lt (line.length + budget - 1) positive
  rw [Nat.mul_comm] at whole
  omega

theorem slices_filled (positive : 0 < budget) (line : Units) : [] ∉ slices budget line := by
  intro blank
  obtain ⟨k,listed,empty⟩ := mem_map.mp blank
  have inside : k * budget + budget ≤ line.length + budget - 1 :=
    Nat.succ_mul k budget ▸ (Nat.le_div_iff_mul_le positive).mp (mem_range.mp listed)
  rw [take_eq_nil_iff,drop_eq_nil_iff] at empty
  omega

theorem cutLine_flatten (positive : 0 < budget) (line : Units) : (cutLine budget line).flatten = line := by
  unfold cutLine
  split
  · simp
  · exact slices_flatten positive line

theorem cutLine_count (positive : 0 < budget) (line : Units) :
    (cutLine budget line).count [] = [line].count [] := by
  unfold cutLine
  split
  · rfl
  · rename_i long
    have filled : line ≠ [] := fun empty => long (by simp [empty])
    rw [count_eq_zero.mpr (slices_filled positive line),count_singleton,if_neg (by simpa using filled)]

theorem cutLine_short (member : piece ∈ cutLine budget line) : piece.length ≤ budget := by
  unfold cutLine at member
  split at member
  · rename_i short
    exact mem_singleton.mp member ▸ short
  · obtain ⟨k,_,rfl⟩ := mem_map.mp member
    exact length_take_le _ _

theorem linesOf_count (positive : 0 < budget) (text : Units) :
    (linesOf budget text).count [] = (text.splitOn newline).count [] := by
  unfold linesOf
  induction text.splitOn newline with
  | nil => rfl
  | cons line rest ih =>
    rw [flatMap_cons,count_append,cutLine_count positive,ih,← count_append,singleton_append]

theorem linesOf_line (positive : 0 < budget) (member : line ∈ linesOf budget text) :
    newline ∉ line ∧ line.length ≤ budget := by
  obtain ⟨whole,listed,cut⟩ := mem_flatMap.mp member
  refine ⟨fun inside => splitOn_solid text whole listed ?_,cutLine_short cut⟩
  rw [← cutLine_flatten positive whole]
  exact mem_flatten.mpr ⟨line,cut,inside⟩

theorem fences_append (front back : Units) :
    fences (front ++ newline :: back) = fences front + fences back := by
  rw [fences,splitOn_append_cons_self,countP_append]
  rfl

theorem fences_line (solid : newline ∉ line) : fences line = if isFence line then 1 else 0 := by
  simp [fences,splitOn_eq_singleton solid]

theorem fences_fence : fences fence = 1 := by decide

structure Sound (limit : Nat) (kept : List Units) (s : Split) : Prop where
  fits : s.current.length ≤ limit
  parity : fences s.current % 2 = s.inFence.toNat
  bounded : ∀ chunk ∈ s.chunks, chunk ≠ [] ∧ chunk.length ≤ limit + 4 ∧ isBalanced chunk
  parts : ∃ parts reopened own, s.chunks = parts.map Part.text ∧ Paired false parts reopened ∧
    s.current = join newline (marks reopened ++ own) ∧ (s.current = [] → reopened = false ∧ own = []) ∧
    parts.flatMap Part.own ++ own = kept

theorem Paired.append (paired : Paired first parts p.reopened) : Paired first (parts ++ [p]) p.closed := by
  induction parts generalizing first with
  | nil => exact ⟨paired,rfl⟩
  | cons q parts ih => exact ⟨paired.1,ih paired.2⟩

theorem part_text (filled : marks reopened ++ own ≠ []) :
    Part.text ⟨reopened,own,closed⟩ = if closed then join newline (marks reopened ++ own) ++ newline :: fence
      else join newline (marks reopened ++ own) := by
  cases closed with
  | false => simp [Part.text,Part.lines,marks]
  | true => exact join_append newline filled (by simp [marks])

variable {s : Split}

theorem Sound.filled (sound : s.current = join newline (marks reopened ++ own)) (full : s.current ≠ []) :
    marks reopened ++ own ≠ [] := by
  intro empty
  rw [empty] at sound
  exact full sound

theorem Sound.flush (sound : Sound limit kept s) (wide : 3 ≤ limit) : Sound limit kept s.flush := by
  unfold Split.flush
  split
  · exact sound
  · rename_i full
    obtain ⟨parts,reopened,own,chunks,paired,current,_,all⟩ := sound.parts
    have parity := sound.parity
    have fits := sound.fits
    refine ⟨?_,?_,?_,parts ++ [⟨reopened,own,s.inFence⟩],s.inFence,[],?_,paired.append,?_,?_,?_⟩
    · cases s.inFence
      · simp
      · exact wide
    · cases s.inFence <;> rfl
    · intro chunk member
      rcases mem_append.mp member with old | new
      · exact sound.bounded chunk old
      · rw [mem_singleton.mp new]
        cases open' : s.inFence
        · rw [open'] at parity
          exact ⟨full,by simp; omega,parity⟩
        · rw [open'] at parity
          refine ⟨by simp,by simp [fence]; omega,?_⟩
          rw [isBalanced,if_pos rfl,fences_append,fences_fence]
          simp at parity
          omega
    · rw [map_append,← chunks,map_singleton,part_text (Sound.filled current full),← current]
    · cases s.inFence <;> rfl
    · cases s.inFence <;> simp [fence]
    · rw [flatMap_append,append_nil,flatMap_singleton,all]

theorem Sound.room (sound : Sound limit kept s) (line : Units) (short : line.length + 8 ≤ limit) :
    Sound limit kept (s.room limit line) ∧
      ((s.room limit line).current = [] ∨ (s.room limit line).current.length + 1 + line.length ≤ limit) := by
  unfold Split.room
  split
  · rename_i beyond
    rw [Split.overflows,decide_eq_true_eq] at beyond
    refine ⟨sound.flush (by omega),?_⟩
    rw [Split.flush,if_neg beyond.1]
    cases s.inFence
    · exact Or.inl rfl
    · simp [fence]
      omega
  · rename_i under
    refine ⟨sound,?_⟩
    by_cases empty : s.current = []
    · exact Or.inl empty
    · rw [Split.overflows,decide_eq_true_eq,if_neg empty] at under
      have room := not_and.mp under empty
      omega

theorem Sound.append (sound : Sound limit kept s) (line : Units) (solid : newline ∉ line)
    (short : line.length ≤ limit) (fits : s.current = [] ∨ s.current.length + 1 + line.length ≤ limit) :
    Sound limit (kept ++ if line = [] ∧ s.current = [] then [] else [line]) (s.append line) := by
  obtain ⟨parts,reopened,own,chunks,paired,current,fresh,all⟩ := sound.parts
  have parity := sound.parity
  have toggled : ((if isFence line then !s.inFence else s.inFence).toNat) =
      (s.inFence.toNat + fences line) % 2 := by
    rw [fences_line solid]
    cases isFence line <;> cases s.inFence <;> rfl
  by_cases empty : s.current = []
  · obtain ⟨rfl,rfl⟩ := fresh empty
    rw [empty,show fences [] = 0 from rfl] at parity
    refine ⟨?_,?_,sound.bounded,parts,false,if line = [] then [] else [line],chunks,paired,?_,?_,?_⟩
    · simpa [Split.append,empty] using short
    · simp only [Split.append,toggled,if_pos empty,← parity]
      omega
    · simp only [Split.append,if_pos empty]
      split
      · rename_i blank
        exact blank
      · simp [marks,join]
    · simp only [Split.append,if_pos empty]
      intro blank
      exact ⟨trivial,if_pos blank⟩
    · rw [← all,append_nil]
      simp [empty]
  · refine ⟨?_,?_,sound.bounded,parts,reopened,own ++ [line],chunks,paired,?_,?_,?_⟩
    · have room := fits.resolve_left empty
      simp only [Split.append,if_neg empty,length_append,length_cons]
      omega
    · simp only [Split.append,toggled,if_neg empty,fences_append]
      omega
    · simp only [Split.append,if_neg empty]
      rw [← append_assoc,join_append newline (Sound.filled current empty) (by simp),← current]
      simp [join]
    · simp [Split.append,empty]
    · rw [← append_assoc,all]
      simp [empty]

theorem Sound.step (sound : Sound limit kept s) (line : Units) (solid : newline ∉ line)
    (short : line.length + 8 ≤ limit) :
    Sound limit (kept ++ if line = [] ∧ (s.room limit line).current = [] then [] else [line])
      (s.step limit line) :=
  have roomy := sound.room line short
  roomy.1.append line solid (by omega) roomy.2

theorem Sound.run (sound : Sound limit kept s) (lines : List Units)
    (fit : ∀ line ∈ lines, newline ∉ line ∧ line.length + 8 ≤ limit) :
    Sound limit (kept ++ keptLines limit s lines) (lines.foldl (Split.step limit) s) := by
  induction lines generalizing s kept with
  | nil => simpa [keptLines] using sound
  | cons line rest ih =>
    have here := fit line mem_cons_self
    rw [keptLines,← append_assoc]
    exact ih (sound.step line here.1 here.2) fun line member => fit line (mem_cons_of_mem _ member)

theorem keptLines_sublist (limit : Nat) (s : Split) (lines : List Units) :
    (keptLines limit s lines).Sublist lines := by
  induction lines generalizing s with
  | nil => exact Sublist.refl _
  | cons line rest ih =>
    rw [keptLines]
    split
    · exact (ih _).cons _
    · exact (ih _).cons_cons _

theorem keptLines_eq (all : Kept limit s lines) : keptLines limit s lines = lines := by
  induction lines generalizing s with
  | nil => rfl
  | cons line rest ih => rw [keptLines,if_neg all.1,ih all.2,singleton_append]

/-- A run that loses no blank line loses none. -/
theorem kept_of_count (same : lines.count [] ≤ (keptLines limit s lines).count []) : Kept limit s lines := by
  induction lines generalizing s with
  | nil => trivial
  | cons line rest ih =>
    rw [keptLines] at same
    by_cases lost : line = [] ∧ (s.room limit line).current = []
    · have fewer := (keptLines_sublist limit (s.step limit line) rest).count_le []
      rw [if_pos lost,lost.1,nil_append,count_cons_self] at same
      rw [lost.1] at fewer
      omega
    · rw [if_neg lost,singleton_append,count_cons,count_cons] at same
      exact ⟨lost,ih (by omega)⟩

theorem start_sound (limit : Nat) : Sound limit [] ⟨[],[],false⟩ :=
  ⟨Nat.zero_le _,rfl,by simp,[],false,[],rfl,rfl,rfl,fun _ => ⟨rfl,rfl⟩,rfl⟩

/-- What the chunks of a text are. -/
theorem split_parts (wide : 9 ≤ limit) (text : Units) :
    (∀ chunk ∈ splitForDiscord text limit, chunk ≠ [] ∧ chunk.length ≤ limit + 4) ∧
      (∀ chunk ∈ (splitForDiscord text limit).dropLast, isBalanced chunk) ∧
      ∃ parts, splitForDiscord text limit = parts.map Part.text ∧ Paired false parts false ∧
        parts.flatMap Part.own = keptLines limit ⟨[],[],false⟩ (linesOf (limit - 8) text) := by
  have sound := (start_sound limit).run (linesOf (limit - 8) text) fun line member =>
    have fine := linesOf_line (by omega) member
    ⟨fine.1,by omega⟩
  rw [nil_append] at sound
  rw [splitForDiscord]
  generalize (linesOf (limit - 8) text).foldl (Split.step limit) ⟨[],[],false⟩ = s at sound ⊢
  obtain ⟨parts,reopened,own,chunks,paired,current,fresh,all⟩ := sound.parts
  by_cases empty : s.current = []
  · obtain ⟨rfl,rfl⟩ := fresh empty
    simp only [if_pos empty]
    refine ⟨fun chunk member => ⟨(sound.bounded chunk member).1,(sound.bounded chunk member).2.1⟩,
      fun chunk member => (sound.bounded chunk ((dropLast_sublist _).mem member)).2.2,
      parts,chunks,paired,by rw [← all,append_nil]⟩
  · simp only [if_neg empty]
    refine ⟨fun chunk member => ?_,fun chunk member => ?_,parts ++ [⟨reopened,own,false⟩],?_,paired.append,?_⟩
    · rcases mem_append.mp member with old | last
      · exact ⟨(sound.bounded chunk old).1,(sound.bounded chunk old).2.1⟩
      · exact mem_singleton.mp last ▸ ⟨empty,by have := sound.fits; omega⟩
    · rw [dropLast_concat] at member
      exact (sound.bounded chunk member).2.2
    · rw [map_append,← chunks,map_singleton,part_text (Sound.filled current empty),if_neg (by simp),current]
    · rw [flatMap_append,flatMap_singleton,all]

/-- The lines of a chunk are its own and the fences. -/
theorem part_lines {p : Part} (solid : ∀ line ∈ p.own, newline ∉ line) (filled : p.text ≠ []) :
    p.text.splitOn newline = p.lines := by
  have solid' : ∀ line ∈ p.lines, newline ∉ line := by
    have mark : ∀ b, ∀ line ∈ marks b, newline ∉ line := by decide
    simp only [Part.lines,mem_append]
    rintro line ((first | own) | last)
    · exact mark _ line first
    · exact solid line own
    · exact mark _ line last
  rw [Part.text,join,splitOn_intercalate newline solid' fun none => filled (by rw [Part.text,none]; rfl)]

theorem part_blanks {p : Part} (solid : ∀ line ∈ p.own, newline ∉ line) (filled : p.text ≠ []) :
    (p.text.splitOn newline).count [] = p.own.count [] := by
  have unmarked : ∀ b, (marks b).count [] = 0 := by decide
  rw [part_lines solid filled,Part.lines,count_append,count_append,unmarked,unmarked]
  omega

/-- The chunks tell how many blank lines they have of their own. -/
theorem parts_blanks (parts : List Part) (solid : ∀ line ∈ parts.flatMap Part.own, newline ∉ line)
    (filled : ∀ chunk ∈ parts.map Part.text, chunk ≠ []) :
    (parts.flatMap Part.own).count [] =
      ((parts.map Part.text).map fun chunk => (chunk.splitOn newline).count []).sum := by
  induction parts with
  | nil => rfl
  | cons p parts ih =>
    simp only [flatMap_cons,mem_append,map_cons,mem_cons,forall_eq_or_imp] at solid filled
    rw [flatMap_cons,count_append,map_cons,map_cons,sum_cons,
      part_blanks (fun line own => solid line (Or.inl own)) filled.1,
      ih (fun line own => solid line (Or.inr own)) filled.2]

theorem pieces_count {pieces : List (List Units)} (whole : ∀ p ∈ pieces, p = [p.flatten] ∨ n < p.flatten.length) :
    (pieces.map flatten).count [] ≤ pieces.flatten.count [] := by
  induction pieces with
  | nil => exact Nat.le_refl _
  | cons p pieces ih =>
    have rest := ih fun q member => whole q (mem_cons_of_mem _ member)
    rw [map_cons,flatten_cons,count_append,← singleton_append,count_append]
    refine Nat.add_le_add ?_ rest
    rcases whole p mem_cons_self with same | long
    · exact same ▸ Nat.le_refl _
    · have filled : p.flatten ≠ [] := ne_nil_of_length_pos (by omega)
      rw [count_singleton,if_neg (by simpa only [beq_iff_eq] using filled)]
      exact Nat.zero_le _

/-- No line of a text is cut that the limit would let through. -/
def CutLate (limit : Nat) (text : Units) : Prop :=
  ∀ line ∈ text.splitOn newline, line.length ≤ limit - 8 ∨ limit < line.length

/-- The chunks restore a text where no blank line comes to an empty chunk and no line is cut too early, and
nowhere else. -/
theorem restored_iff (wide : 11 ≤ limit) (text : Units) : Restored limit text (splitForDiscord text limit) ↔
    Kept limit ⟨[],[],false⟩ (linesOf (limit - 8) text) ∧ CutLate limit text := by
  have positive : 0 < limit - 8 := by omega
  obtain ⟨bounded,_,parts,chunks,paired,own⟩ := split_parts (show 9 ≤ limit by omega) text
  constructor
  · rintro ⟨parts',pieces,chunks',_,own',whole,cut⟩
    have filled : ∀ chunk ∈ splitForDiscord text limit, chunk ≠ [] := fun chunk member => (bounded chunk member).1
    have ours : ∀ line ∈ parts.flatMap Part.own, newline ∉ line ∧ line.length ≤ limit - 8 := by
      intro line member
      rw [own] at member
      exact linesOf_line positive ((keptLines_sublist limit _ _).mem member)
    have theirs : ∀ line ∈ parts'.flatMap Part.own, newline ∉ line := by
      intro line member broken
      rw [own'] at member
      obtain ⟨p,listed,inside⟩ := mem_flatten.mp member
      refine splitOn_solid text p.flatten ?_ (mem_flatten.mpr ⟨line,inside,broken⟩)
      exact whole ▸ mem_map_of_mem listed
    constructor
    · have blanks := parts_blanks parts (fun line member => (ours line member).1) (chunks ▸ filled)
      have blanks' := parts_blanks parts' theirs (chunks' ▸ filled)
      refine kept_of_count ?_
      rw [← own,blanks,← chunks,chunks',← blanks',own',linesOf_count positive,← whole]
      exact pieces_count cut
    · intro line member
      rw [← whole] at member
      obtain ⟨p,listed,rfl⟩ := mem_map.mp member
      refine (cut p listed).imp_left fun single => ?_
      -- an uncut line stands in a chunk, where the splitter has put no longer line
      have inside : p.flatten ∈ parts'.flatMap Part.own := by
        rw [own']
        refine mem_flatten.mpr ⟨p,listed,?_⟩
        obtain ⟨line,rfl⟩ : ∃ line, p = [line] := ⟨_,single⟩
        simp
      obtain ⟨q,listed',within⟩ := mem_flatMap.mp inside
      have chunk : q.text ∈ splitForDiscord text limit := chunks' ▸ mem_map_of_mem listed'
      have lines : p.flatten ∈ q.text.splitOn newline := by
        rw [part_lines (fun line own => theirs line (mem_flatMap.mpr ⟨q,listed',own⟩)) (filled _ chunk)]
        simp [Part.lines,within]
      rw [chunks] at chunk
      obtain ⟨r,listed,same⟩ := mem_map.mp chunk
      have solid : ∀ line ∈ r.own, newline ∉ line ∧ line.length ≤ limit - 8 :=
        fun line own => ours line (mem_flatMap.mpr ⟨r,listed,own⟩)
      rw [← same,part_lines (fun line own => (solid line own).1) (filled _ (chunks ▸ mem_map_of_mem listed))]
        at lines
      have mark : ∀ b, ∀ line ∈ marks b, line.length ≤ 3 := by decide
      simp only [Part.lines,mem_append] at lines
      rcases lines with (first | own) | last
      · exact (mark _ _ first).trans (by omega)
      · exact (solid _ own).2
      · exact (mark _ _ last).trans (by omega)
  · rintro ⟨all,late⟩
    refine ⟨parts,(text.splitOn newline).map (cutLine (limit - 8)),chunks,paired,?_,?_,?_⟩
    · rw [own,keptLines_eq all]
      rfl
    · rw [map_map]
      exact map_id'' (cutLine_flatten positive) _
    · intro p member
      obtain ⟨line,listed,rfl⟩ := mem_map.mp member
      rw [cutLine_flatten positive]
      unfold cutLine
      split
      · exact Or.inl rfl
      · rename_i long
        exact Or.inr ((late line listed).resolve_left long)

theorem headerOf_length (named : ∀ name ∈ command, name.length ≤ 32) : (headerOf command ok).length ≤ 45 := by
  have tail : (ofString (if ok then "** result:" else "** failed:")).length = 10 := by cases ok <;> decide
  have lead : (ofString "**/").length = 3 ∧ (ofString "**GJC").length = 5 := by decide
  cases command with
  | none => simp only [headerOf,length_append,lead,tail]; decide
  | some name =>
    have short := named name rfl
    simp only [headerOf,length_append,lead,tail]
    omega

theorem partLabel_length (i : Nat) (low : 1 ≤ i) (count : Nat) (inside : i ≤ count) (few : count ≤ MAX_CHUNKS) :
    (partLabel i count).length ≤ 75 := by
  have few' : count ≤ 7 := few
  have number (n : Nat) (positive : 1 ≤ n) (small : n ≤ 7) : (stringifyNumber (.int n)).length ≤ 32 :=
    Envelope.stringifyNumber_length (by omega) (by rw [maxSafeInteger]; omega)
  have first := number i low (by omega)
  have last := number count (by omega) few'
  have texts : (ofString "_(Part ").length = 7 ∧ (ofString "/").length = 1 ∧ (ofString ")_\n").length = 3 := by decide
  simp only [partLabel,length_append,texts]
  omega

theorem deliverResult_length (short : header.length ≤ 45) (safe : text.length ≤ maxSafeInteger)
    (member : m ∈ deliverResult header text) : m.length ≤ 2000 := by
  simp only [deliverResult] at member
  split at member
  · rename_i fits
    rw [mem_singleton.mp member]
    exact fits.trans (by decide)
  · rename_i long
    rw [length_append,length_cons,CHUNK_LIMIT] at long
    split at member
    · rename_i few
      obtain ⟨i,inside,rfl⟩ := mem_mapIdx.mp member
      have bounded := ((split_parts (by decide) _).1 _ (getElem_mem inside)).2
      have limit : CHUNK_LIMIT = 1900 := rfl
      rw [length_append]
      split
      · have label := partLabel_length (i + 1) (by omega) _ inside few
        omega
      · rw [length_nil]
        omega
    · have digits : (stringifyNumber (.int text.length)).length ≤ 32 :=
        Envelope.stringifyNumber_length (by omega) safe
      have texts : (ofString " (output attached, ").length = 19 ∧ (ofString " chars)").length = 7 := by decide
      rw [mem_singleton.mp member]
      simp only [length_append,texts]
      omega

/-- The name of a slash command has at most 32 characters. No message is too long, no chunk but the last
leaves a fence open, and the chunks restore the response exactly if no blank line would start one of them and
no line of it is cut before the limit. -/
theorem delivery_restores (named : ∀ name ∈ command, name.length ≤ 32) (safe : text.length ≤ maxSafeInteger) :
    (∀ m ∈ deliverResult (headerOf command ok) text, m.length ≤ 2000) ∧
      (∀ chunk ∈ (splitForDiscord (headerOf command ok ++ newline :: text) CHUNK_LIMIT).dropLast,
        isBalanced chunk) ∧ (Restored CHUNK_LIMIT (headerOf command ok ++ newline :: text)
          (splitForDiscord (headerOf command ok ++ newline :: text) CHUNK_LIMIT) ↔
        Kept CHUNK_LIMIT ⟨[],[],false⟩ (linesOf (CHUNK_LIMIT - 8) (headerOf command ok ++ newline :: text)) ∧
          CutLate CHUNK_LIMIT (headerOf command ok ++ newline :: text)) :=
  ⟨fun _ member => deliverResult_length (headerOf_length named) safe member,(split_parts (by decide) _).2.1,
    restored_iff (by decide) _⟩

theorem delivery_restores_short :
    Restored CHUNK_LIMIT (headerOf (some (ofString "gjc")) true ++ newline :: [0x61,newline,newline,0x62])
      (splitForDiscord (headerOf (some (ofString "gjc")) true ++ newline :: [0x61,newline,newline,0x62]) CHUNK_LIMIT) :=
  (delivery_restores (by decide +kernel) (by decide)).2.2.mpr ⟨by decide +kernel,by unfold CutLate; decide +kernel⟩

/-- A response whose first chunk is full before a blank line. -/
def filledText : Units := replicate 1884 0x61 ++ [newline,newline,0x62]

/-- A line that a message would take as it is. -/
def fittingText : Units := replicate 1893 0x61

theorem delivery_loses : ¬ Restored CHUNK_LIMIT (headerOf none true ++ newline :: filledText)
      (splitForDiscord (headerOf none true ++ newline :: filledText) CHUNK_LIMIT) ∧
    ¬ Restored CHUNK_LIMIT (headerOf none true ++ newline :: fittingText)
      (splitForDiscord (headerOf none true ++ newline :: fittingText) CHUNK_LIMIT) := by
  constructor
  · intro restored
    exact absurd ((restored_iff (by decide) _).mp restored).1 (by decide +kernel)
  · intro restored
    exact absurd ((restored_iff (by decide) _).mp restored).2 (by unfold CutLate; decide +kernel)

end GjcRemote.Delivery
