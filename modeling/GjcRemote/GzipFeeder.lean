import GjcRemote.StrictJsonShape

/-! The gzip framing of a service archive, `native-control/src/service-archive.js`: ten bytes of header, the
compressed bytes, and a trailer of eight that is held back until the stream has ended and then compared with
what was inflated. -/
namespace GjcRemote.ServiceArchive

open Utf16 StrictJson List

inductive Code where
  | input | size | hash | gzip
  deriving DecidableEq

/-- Raw inflate, byte by byte: a byte that is no compressed data is an error, and after the end of the
compressed stream no byte is consumed. -/
structure Inflater (σ : Type) where
  start : σ
  inflate : σ → UInt8 → Option σ
  ended : σ → Bool
  complete : σ → Bool
  output : σ → List UInt8

structure ExpectedArchive where
  byteLength : Nat
  sha256 : Units

/-- `header` holds the first `headerOffset` bytes, `compressed` all that were counted and hashed, and
`written` the pieces that the inflater was given. -/
structure Feeder (σ : Type) where
  header : List UInt8
  tail : List UInt8
  trailing : List UInt8
  inflateEndedEarly : Bool
  endedInflater : Bool
  compressed : List UInt8
  inflater : σ
  written : List UInt8

structure Archive where
  byteLength : Nat
  sha256 : Units
  trailer : List UInt8
  deriving DecidableEq

variable {σ : Type} (i : Inflater σ)

/-- What a write makes of the inflater, and how many of the bytes it consumes. -/
def Inflater.write (s : σ) : List UInt8 → Option (σ × Nat)
  | [] => some (s,0)
  | b :: rest =>
    if i.ended s then some (s,0)
    else (i.inflate s b).bind fun next => (Inflater.write next rest).map fun r => (r.1,r.2 + 1)

def Feeder.new : Feeder σ := ⟨[],[],[],false,false,[],i.start,[]⟩

/-- A failure comes with the feeder as it is then. -/
abbrev Fed (σ : Type) := Except (Code × Feeder σ)

def validGzipHeader : List UInt8 → Bool
  | [a,b,c,d,e,f,g,h,x,os] =>
    a == 0x1F && b == 0x8B && c == 8 && d == 0 && e == 0 && f == 0 && g == 0 && h == 0 &&
      (x == 0 || x == 2 || x == 4) && os == 255
  | _ => false

def Feeder.addTrailing (f : Feeder σ) (bytes : List UInt8) : Fed σ (Feeder σ) :=
  if bytes.length = 0 then .ok f
  else if 8 < f.trailing.length + bytes.length then .error (.gzip,f)
  else .ok { f with trailing := f.trailing ++ bytes }

def Feeder.finishInflater (f : Feeder σ) : Fed σ (Feeder σ) :=
  if f.endedInflater then .ok f
  else if i.complete f.inflater then .ok { f with endedInflater := true }
  else .error (.gzip,{ f with endedInflater := true })

def Feeder.feedDeflatePiece (f : Feeder σ) (bytes : List UInt8) : Fed σ (Bool × Feeder σ) :=
  if bytes.length = 0 then .ok (false,f)
  else match i.write f.inflater bytes with
    | none => .error (.gzip,{ f with written := f.written ++ bytes })
    | some (s,consumed) =>
      let f := { f with inflater := s, written := f.written ++ bytes }
      if bytes.length < consumed then .error (.gzip,f)
      else if consumed = bytes.length then .ok (false,f)
      else do
        let f ← { f with inflateEndedEarly := true }.addTrailing (bytes.drop consumed)
        let f ← f.finishInflater i
        return (true,f)

/-- The pieces that are fed, and the bytes that are held back. -/
def hold (tail bytes : List UInt8) : List (List UInt8) × List UInt8 :=
  if 8 ≤ bytes.length then
    let feedLength := bytes.length - 8
    ((if 0 < tail.length then [tail] else []) ++ (if 0 < feedLength then [bytes.take feedLength] else []),
      bytes.drop feedLength)
  else
    let feedFromTail := tail.length + bytes.length - 8
    (if 0 < feedFromTail then [tail.take feedFromTail] else [],tail.drop feedFromTail ++ bytes)

def Feeder.feedPieces (nextTail : List UInt8) (f : Feeder σ) : List (List UInt8) → Fed σ (Feeder σ)
  | [] => .ok { f with tail := nextTail }
  | piece :: rest => do
    let (ended,f) ← f.feedDeflatePiece i piece
    if ended then
      let f ← (rest ++ [nextTail]).foldlM Feeder.addTrailing f
      return { f with tail := [] }
    else Feeder.feedPieces nextTail f rest

def Feeder.holdTrailerAndFeed (f : Feeder σ) (bytes : List UInt8) : Fed σ (Feeder σ) :=
  if bytes.length = 0 then .ok f
  else if f.inflateEndedEarly then f.addTrailing bytes
  else f.feedPieces i (hold f.tail bytes).2 (hold f.tail bytes).1

def Feeder.accept (f : Feeder σ) (input : List UInt8) : Fed σ (Feeder σ) :=
  let taken := if f.header.length < 10 then min input.length (10 - f.header.length) else 0
  let f' := { f with header := f.header ++ input.take taken }
  if f.header.length < 10 ∧ f'.header.length = 10 ∧ validGzipHeader f'.header = false then .error (.gzip,f')
  else f'.holdTrailerAndFeed i (input.drop taken)

/-- One result of the source: its bytes, or none where it is anything else. -/
def Feeder.receive (expected : ExpectedArchive) (f : Feeder σ) : Option (List UInt8) → Fed σ (Feeder σ)
  | none => .error (.input,f)
  | some bytes =>
    let f := { f with compressed := f.compressed ++ bytes }
    if maxSafeInteger < (f.compressed.length : Int) ∨ expected.byteLength < f.compressed.length then .error (.size,f)
    else f.accept i bytes

variable (sha256 : List UInt8 → Units) (expected : ExpectedArchive)

def Feeder.finish (f : Feeder σ) : Fed σ (Archive × Feeder σ) :=
  if f.compressed.length ≠ expected.byteLength then .error (.size,f)
  else if f.header.length ≠ 10 then .error (.gzip,f)
  else if sha256 f.compressed ≠ expected.sha256 then .error (.hash,f)
  else if f.inflateEndedEarly then
    if f.trailing.length ≠ 8 then .error (.gzip,f)
    else .ok (⟨f.compressed.length,sha256 f.compressed,f.trailing⟩,f)
  else if f.tail.length ≠ 8 then .error (.gzip,f)
  else do
    let f ← f.finishInflater i
    return (⟨f.compressed.length,sha256 f.compressed,f.tail⟩,f)

/-- The feeder over a source whose results are these and which then is done. -/
def run (results : List (Option (List UInt8))) : Fed σ (Archive × Feeder σ) := do
  let f ← results.foldlM (Feeder.receive i expected) (.new i)
  f.finish i sha256 expected

/-- An entry of `CRC_TABLE`. -/
def crcTable (index : UInt32) : UInt32 :=
  Nat.repeat (fun value => if value &&& 1 = 1 then (value >>> 1) ^^^ 0xedb88320 else value >>> 1) 8 index

def updateCrc32 (crc : UInt32) (bytes : List UInt8) : UInt32 :=
  bytes.foldl (fun value byte => crcTable ((value ^^^ byte.toUInt32) &&& 0xff) ^^^ (value >>> 8)) crc

def readUInt32LE (bytes : List UInt8) : UInt32 := bytes.foldr (fun byte rest => rest <<< 8 ||| byte.toUInt32) 0

/-- The checksum and the length that the trailer gives are those of the output. -/
def trailerMatches (trailer output : List UInt8) : Bool :=
  readUInt32LE (trailer.take 4) = updateCrc32 0xffffffff output ^^^ 0xffffffff &&
    readUInt32LE (trailer.drop 4) = UInt32.ofNat output.length

/-- The framing of one pass; the limit on the output and the tar that is read from it are left out. -/
def executePass (results : List (Option (List UInt8))) : Fed σ (Archive × Feeder σ) := do
  let (framing,f) ← run i sha256 expected results
  if trailerMatches framing.trailer (i.output f.inflater) then .ok (framing,f) else .error (.gzip,f)

theorem Inflater.write_append (s : σ) (a b : List UInt8) :
    i.write s (a ++ b) = some (s',(a ++ b).length) ↔
      ∃ middle, i.write s a = some (middle,a.length) ∧ i.write middle b = some (s',b.length) := by
  induction a generalizing s with
  | nil => simp [Inflater.write]
  | cons byte rest ih =>
    rw [cons_append,Inflater.write,Inflater.write]
    split
    · simp
    · cases i.inflate s byte with
      | none => simp
      | some next =>
        have step := ih next
        simp only [length_append,Option.bind_some,Option.map_eq_some_iff,Prod.mk.injEq,Prod.exists,
          length_cons] at step ⊢
        constructor
        · rintro ⟨t,n,written,rfl,same⟩
          obtain ⟨middle,first,second⟩ := step.mp (by rw [written]; congr; omega)
          exact ⟨middle,⟨middle,_,first,rfl,rfl⟩,second⟩
        · rintro ⟨middle,⟨t,n,first,rfl,same⟩,second⟩
          obtain rfl : n = rest.length := by omega
          exact ⟨s',_,step.mpr ⟨_,first,second⟩,rfl,by omega⟩

theorem Inflater.write_le
    (written : i.write s bytes = some r) : r.2 ≤ bytes.length := by
  induction bytes generalizing s r with
  | nil =>
    obtain rfl := Option.some.inj written
    exact Nat.le_refl 0
  | cons byte rest ih =>
    rw [Inflater.write] at written
    split at written
    · obtain rfl := Option.some.inj written
      exact Nat.zero_le _
    · simp only [Option.bind_eq_some_iff,Option.map_eq_some_iff] at written
      obtain ⟨next,_,r',after,rfl⟩ := written
      exact Nat.succ_le_succ (ih after)

theorem hold_spec (tail bytes : List UInt8) (few : tail.length ≤ 8) :
    (hold tail bytes).1.flatten = (tail ++ bytes).take ((tail ++ bytes).length - 8) ∧
      (hold tail bytes).2 = (tail ++ bytes).drop ((tail ++ bytes).length - 8) := by
  rw [hold,length_append]
  split
  next long =>
    have sizes : tail.length + bytes.length - 8 = tail.length + (bytes.length - 8) := by omega
    rw [sizes,take_length_add_append,drop_length_add_append]
    refine ⟨?_,rfl⟩
    have front : (if 0 < tail.length then [tail] else []).flatten = tail := by
      split
      · simp
      · simp_all
    have back : (if 0 < bytes.length - 8 then [bytes.take (bytes.length - 8)] else []).flatten =
        bytes.take (bytes.length - 8) := by
      split
      · simp
      · simp_all
    rw [flatten_append,front,back]
  next short =>
    have within : tail.length + bytes.length - 8 ≤ tail.length := by omega
    rw [take_append_of_le_length within,drop_append_of_le_length within]
    refine ⟨?_,rfl⟩
    show (if 0 < tail.length + bytes.length - 8 then _ else []).flatten = _
    split
    · simp
    · simp_all

/-- A result that is a failure, of a feeder that has written these bytes. -/
def Fails {α : Type} (result : Fed σ α) (written : List UInt8 → Prop) : Prop :=
  ∃ code f', result = .error (code,f') ∧ written f'.written

theorem Fails.bind {α β : Type} {result : Fed σ α} {written : List UInt8 → Prop} (fails : Fails result written)
    (next : α → Fed σ β) : Fails (result >>= next) written := by
  obtain ⟨code,f,rfl,at'⟩ := fails
  exact ⟨code,f,rfl,at'⟩

/-- More than eight trailing bytes are refused. -/
theorem addTrailing_fails {f : Feeder σ} (parts : List (List UInt8)) {last : List UInt8}
    (many : 8 < f.trailing.length + last.length) (some' : last.length ≠ 0) :
    Fails ((parts ++ [last]).foldlM Feeder.addTrailing f) (· = f.written) := by
  induction parts generalizing f with
  | nil => exact ⟨.gzip,f,by simp [Feeder.addTrailing,some',many],rfl⟩
  | cons part rest ih =>
    rw [cons_append,foldlM_cons,Feeder.addTrailing]
    split
    · exact ih many
    · split
      · exact ⟨_,_,rfl,rfl⟩
      · have longer : 8 < (f.trailing ++ part).length + last.length := by
          rw [length_append]
          omega
        exact @ih { f with trailing := f.trailing ++ part } longer

theorem finishInflater_spec (f : Feeder σ) : Fails (f.finishInflater i) (· = f.written) ∨
    ∃ f', f.finishInflater i = .ok f' ∧ f'.written = f.written ∧ f'.trailing = f.trailing := by
  rw [Feeder.finishInflater]
  split
  · exact .inr ⟨f,rfl,rfl,rfl⟩
  · split
    · exact .inr ⟨_,rfl,rfl,rfl⟩
    · exact .inl ⟨_,_,rfl,rfl⟩

/-- An inflater that ends before eight held bytes makes the feeder fail. -/
theorem feedDeflatePiece_spec (f : Feeder σ) (piece : List UInt8) :
    (∃ s, i.write f.inflater piece = some (s,piece.length) ∧
      f.feedDeflatePiece i piece = .ok (false,{ f with inflater := s, written := f.written ++ piece })) ∨
    (¬∃ s, i.write f.inflater piece = some (s,piece.length)) ∧
      (Fails (f.feedDeflatePiece i piece) (· = f.written ++ piece) ∨
        ∃ f', f.feedDeflatePiece i piece = .ok (true,f') ∧ f'.written = f.written ++ piece ∧
          f'.trailing.length ≠ 0) := by
  rw [Feeder.feedDeflatePiece]
  split
  next empty =>
    obtain rfl := length_eq_zero_iff.mp empty
    exact .inl ⟨f.inflater,rfl,by simp⟩
  next filled =>
    split
    next none' => exact .inr ⟨by simp [none'],.inl ⟨_,_,rfl,rfl⟩⟩
    next s consumed written =>
      have within := i.write_le written
      rw [if_neg (Nat.not_lt.mpr within)]
      split
      next all =>
        obtain rfl := all
        exact .inl ⟨s,written,rfl⟩
      next part =>
        refine .inr ⟨by simp [written,part],?_⟩
        have left : (piece.drop consumed).length ≠ 0 := by
          rw [length_drop]
          omega
        rw [Feeder.addTrailing,if_neg left]
        split
        · exact .inl ⟨_,_,rfl,rfl⟩
        · let f' : Feeder σ := { f with
            inflater := s, written := f.written ++ piece, inflateEndedEarly := true,
            trailing := f.trailing ++ piece.drop consumed }
          rcases finishInflater_spec i f' with fails | ⟨f'',ok,written',trailing⟩
          · exact .inl (fails.bind fun f => .ok (true,f))
          · refine .inr ⟨f'',?_,written',?_⟩
            · show (f'.finishInflater i >>= fun f => .ok (true,f)) = _
              rw [ok]
              rfl
            · rw [trailing,length_append]
              omega

theorem feedPieces_spec (f : Feeder σ) (pieces : List (List UInt8)) (nextTail : List UInt8)
    (held : pieces.flatten ≠ [] → nextTail.length = 8) :
    (∃ s, i.write f.inflater pieces.flatten = some (s,pieces.flatten.length) ∧ f.feedPieces i nextTail pieces =
        .ok { f with inflater := s, written := f.written ++ pieces.flatten, tail := nextTail }) ∨
      (¬∃ s, i.write f.inflater pieces.flatten = some (s,pieces.flatten.length)) ∧
        Fails (f.feedPieces i nextTail pieces) (· <+: f.written ++ pieces.flatten) := by
  induction pieces generalizing f with
  | nil => exact .inl ⟨f.inflater,rfl,by simp [Feeder.feedPieces]⟩
  | cons piece rest ih =>
    rw [Feeder.feedPieces,flatten_cons]
    rcases feedDeflatePiece_spec i f piece with ⟨s,consumed,ok⟩ | ⟨stopped,failed⟩
    · rw [ok]
      rcases ih { f with inflater := s, written := f.written ++ piece } (by simp_all) with
        ⟨s',all,fed⟩ | ⟨partly,fails⟩
      · refine .inl ⟨s',(i.write_append _ _ _).mpr ⟨s,consumed,all⟩,?_⟩
        rw [← append_assoc]
        exact fed
      · refine .inr ⟨?_,?_⟩
        · rintro ⟨s',all⟩
          obtain ⟨middle,first,second⟩ := (i.write_append _ _ _).mp all
          obtain rfl : s = middle := by simpa [consumed] using first
          exact partly ⟨s',second⟩
        · rw [← append_assoc]
          exact fails
    · refine .inr ⟨?_,?_⟩
      · rintro ⟨s',all⟩
        obtain ⟨middle,first,_⟩ := (i.write_append _ _ _).mp all
        exact stopped ⟨middle,first⟩
      · have prefix' : f.written ++ piece <+: f.written ++ (piece ++ rest.flatten) := by
          rw [← append_assoc]
          exact prefix_append _ _
        rcases failed with ⟨code,f',fails,written⟩ | ⟨f',early,written,some'⟩
        · exact ⟨code,f',by rw [fails]; rfl,written ▸ prefix'⟩
        · have eight : nextTail.length = 8 := by
            refine held fun empty => stopped ?_
            obtain ⟨rfl,_⟩ := append_eq_nil_iff.mp ((flatten_cons ..).symm.trans empty)
            exact ⟨_,rfl⟩
          obtain ⟨code,f'',fails,written'⟩ := @addTrailing_fails σ f' rest nextTail (by omega) (by omega)
          refine ⟨code,f'',?_,by rw [written',written]; exact prefix'⟩
          rw [early]
          show ((rest ++ [nextTail]).foldlM Feeder.addTrailing f' >>= _) = _
          rw [fails]
          rfl

variable (bytes : List UInt8)

/-- The last eight bytes, or all where there are no more. -/
def lastEight : List UInt8 := bytes.drop (bytes.length - 8)

def butLastEight : List UInt8 := bytes.take (bytes.length - 8)

theorem butLastEight_append (bytes more : List UInt8) :
    butLastEight bytes ++ butLastEight (lastEight bytes ++ more) = butLastEight (bytes ++ more) ∧
      lastEight (lastEight bytes ++ more) = lastEight (bytes ++ more) := by
  obtain ⟨front,back,same,few⟩ : ∃ front back, bytes = front ++ back ∧ front.length = bytes.length - 8 :=
    ⟨bytes.take (bytes.length - 8),bytes.drop (bytes.length - 8),(take_append_drop ..).symm,by
      rw [length_take]; omega⟩
  have sizes : bytes.length = front.length + back.length := by rw [same,length_append]
  have first : butLastEight bytes = front := by
    rw [butLastEight,← few,same,take_left]
  have last : lastEight bytes = back := by
    rw [lastEight,← few,same,drop_left]
  rw [first,last,same,append_assoc]
  simp only [butLastEight,lastEight,length_append]
  have split' : front.length + (back.length + more.length) - 8 =
      front.length + (back.length + more.length - 8) := by omega
  rw [split',take_length_add_append,drop_length_add_append]
  exact ⟨rfl,rfl⟩

/-- What a feeder is after these bytes. -/
structure Holding (seen : List UInt8) (f : Feeder σ) : Prop where
  compressed : f.compressed = seen
  header : f.header = seen.take 10
  written : f.written = butLastEight (seen.drop 10)
  tail : f.tail = lastEight (seen.drop 10)
  inflateEndedEarly : f.inflateEndedEarly = false
  endedInflater : f.endedInflater = false
  inflater : i.write i.start f.written = some (f.inflater,f.written.length)

theorem Holding.new : Holding i [] (.new i) := ⟨rfl,rfl,rfl,rfl,rfl,rfl,rfl⟩

/-- The inflater consumes these bytes and no others were counted than the archive may have. -/
def Passes : Prop :=
  (bytes.length : Int) ≤ maxSafeInteger ∧ bytes.length ≤ expected.byteLength ∧
    ∃ s, i.write i.start (butLastEight (bytes.drop 10)) = some (s,(butLastEight (bytes.drop 10)).length)

theorem holdTrailerAndFeed_spec {f : Feeder σ} {before : List UInt8} (bytes : List UInt8)
    (written : f.written = butLastEight before) (tail : f.tail = lastEight before)
    (early : f.inflateEndedEarly = false)
    (consumed : i.write i.start f.written = some (f.inflater,f.written.length)) :
    (∃ s, i.write i.start (butLastEight (before ++ bytes)) = some (s,(butLastEight (before ++ bytes)).length) ∧
      f.holdTrailerAndFeed i bytes = .ok { f with
        inflater := s, written := butLastEight (before ++ bytes), tail := lastEight (before ++ bytes) }) ∨
    (¬∃ s, i.write i.start (butLastEight (before ++ bytes)) = some (s,(butLastEight (before ++ bytes)).length)) ∧
      Fails (f.holdTrailerAndFeed i bytes) (· <+: butLastEight (before ++ bytes)) := by
  rw [Feeder.holdTrailerAndFeed]
  split
  next empty =>
    obtain rfl := length_eq_zero_iff.mp empty
    rw [append_nil,← written,← tail]
    exact .inl ⟨f.inflater,consumed,rfl⟩
  next filled =>
    rw [if_neg (by simp [early])]
    have few : f.tail.length ≤ 8 := by
      rw [tail,lastEight,length_drop]
      omega
    obtain ⟨pieces,next⟩ := hold_spec f.tail bytes few
    obtain ⟨front,back⟩ := butLastEight_append before bytes
    have front' : f.written ++ (hold f.tail bytes).1.flatten = butLastEight (before ++ bytes) := by
      rw [pieces,written,tail]
      exact front
    have back' : (hold f.tail bytes).2 = lastEight (before ++ bytes) := by
      rw [next,tail]
      exact back
    have held : (hold f.tail bytes).1.flatten ≠ [] → (hold f.tail bytes).2.length = 8 := by
      intro some'
      rw [pieces,ne_eq,take_eq_nil_iff,not_or] at some'
      rw [next,length_drop]
      omega
    rw [← front',← back']
    rcases feedPieces_spec i f _ _ held with ⟨s,all,fed⟩ | ⟨partly,fails⟩
    · exact .inl ⟨s,(i.write_append _ _ _).mpr ⟨_,consumed,all⟩,fed⟩
    · refine .inr ⟨?_,fails⟩
      rintro ⟨s,all⟩
      obtain ⟨middle,first,second⟩ := (i.write_append _ _ _).mp all
      obtain rfl : f.inflater = middle := by simpa [consumed] using first
      exact partly ⟨s,second⟩

/-- The bytes of a chunk that the header still takes, and the others. -/
theorem taken_spec (seen bytes : List UInt8)
    (is_taken : taken = if (seen.take 10).length < 10 then min bytes.length (10 - (seen.take 10).length) else 0) :
    seen.take 10 ++ bytes.take taken = (seen ++ bytes).take 10 ∧
      seen.drop 10 ++ bytes.drop taken = (seen ++ bytes).drop 10 := by
  have least : taken = min (10 - seen.length) bytes.length := by
    rw [is_taken,length_take]
    split <;> omega
  rw [take_append,drop_append,least,← take_eq_take_min,← drop_eq_drop_min]
  exact ⟨rfl,rfl⟩

/-- After each chunk the feeder holds back the last eight bytes, unless the chunk makes it fail. -/
theorem receive_spec {seen : List UInt8} {f : Feeder σ} (holding : Holding i seen f) (bytes : List UInt8)
    (valid : 10 ≤ (seen ++ bytes).length → validGzipHeader ((seen ++ bytes).take 10) = true) :
    (Passes i expected (seen ++ bytes) ∧
      ∃ f', f.receive i expected (some bytes) = .ok f' ∧ Holding i (seen ++ bytes) f') ∨
    ¬Passes i expected (seen ++ bytes) ∧
      Fails (f.receive i expected (some bytes)) (· <+: butLastEight ((seen ++ bytes).drop 10)) := by
  rw [Feeder.receive,holding.compressed]
  split
  next long =>
    refine .inr ⟨fun passes => ?_,_,_,rfl,?_⟩
    · rcases long with more | more
      · exact absurd passes.1 (not_le.mpr more)
      · exact absurd passes.2.1 (not_le.mpr more)
    · rw [drop_append,← (butLastEight_append ..).1,← holding.written]
      exact prefix_append _ _
  next short =>
    obtain ⟨header,rest⟩ := taken_spec seen bytes rfl
    simp only [Feeder.accept,holding.header]
    rw [header,if_neg]
    · rw [← rest]
      obtain ⟨safe,fits⟩ := not_or.mp short
      rcases holdTrailerAndFeed_spec i (f := { f with
          compressed := seen ++ bytes, header := (seen ++ bytes).take 10 }) _
          holding.written holding.tail holding.inflateEndedEarly holding.inflater with
        ⟨s,all,fed⟩ | ⟨partly,fails⟩
      · refine .inl ⟨⟨not_lt.mp safe,not_lt.mp fits,by rw [← rest]; exact ⟨s,all⟩⟩,_,fed,?_⟩
        exact ⟨rfl,rfl,by rw [← rest],by rw [← rest],holding.inflateEndedEarly,holding.endedInflater,all⟩
      · exact .inr ⟨fun passes => partly (by rw [rest]; exact passes.2.2),fails⟩
    · rintro ⟨_,ten,invalid⟩
      rw [length_take] at ten
      rw [valid (by omega)] at invalid
      cases invalid

/-- What it takes for these bytes to be the archive. -/
structure Accepts : Prop where
  byteLength : bytes.length = expected.byteLength
  safe : (bytes.length : Int) ≤ maxSafeInteger
  digest : sha256 bytes = expected.sha256
  inflates : ∃ s, i.write i.start (butLastEight (bytes.drop 10)) =
    some (s,(butLastEight (bytes.drop 10)).length) ∧ i.complete s = true ∧
    trailerMatches (lastEight bytes) (i.output s)

theorem butLastEight_drop (a b : List UInt8) :
    ∃ rest, butLastEight ((a ++ b).drop 10) = butLastEight (a.drop 10) ++ rest := by
  rw [drop_append,← (butLastEight_append ..).1]
  exact ⟨_,rfl⟩

theorem Passes.of_append (passes : Passes i expected (a ++ b)) : Passes i expected a := by
  obtain ⟨safe,fits,s,all⟩ := passes
  obtain ⟨rest,same⟩ := butLastEight_drop a b
  rw [same] at all
  obtain ⟨middle,first,_⟩ := (i.write_append _ _ _).mp all
  rw [length_append] at safe fits
  exact ⟨by omega,by omega,middle,first⟩

theorem chunks_spec {seen : List UInt8} {f : Feeder σ} (holding : Holding i seen f)
    (passes : Passes i expected seen) (chunks : List (List UInt8))
    (valid : validGzipHeader ((seen ++ chunks.flatten).take 10) = true) :
    (Passes i expected (seen ++ chunks.flatten) ∧
      ∃ f', (chunks.map some).foldlM (Feeder.receive i expected) f = .ok f' ∧
        Holding i (seen ++ chunks.flatten) f') ∨ ¬Passes i expected (seen ++ chunks.flatten) ∧
      Fails ((chunks.map some).foldlM (Feeder.receive i expected) f)
        (· <+: butLastEight ((seen ++ chunks.flatten).drop 10)) := by
  induction chunks generalizing seen f with
  | nil =>
    rw [flatten_nil,append_nil]
    exact .inl ⟨passes,f,rfl,holding⟩
  | cons chunk rest ih =>
    rw [flatten_cons,← append_assoc] at valid ⊢
    rw [map_cons,foldlM_cons]
    have now : 10 ≤ (seen ++ chunk).length → validGzipHeader ((seen ++ chunk).take 10) = true := by
      intro ten
      rwa [take_append_of_le_length ten] at valid
    rcases receive_spec i expected holding chunk now with ⟨passes',f',ok,holding'⟩ | ⟨refused,fails⟩
    · rw [ok]
      exact ih holding' passes' valid
    · obtain ⟨more,same⟩ := butLastEight_drop (seen ++ chunk) rest.flatten
      refine .inr ⟨fun later => refused (later.of_append),?_⟩
      obtain ⟨code,f',failed,written⟩ := fails.bind fun f =>
        (rest.map some).foldlM (Feeder.receive i expected) f
      exact ⟨code,f',failed,written.trans (same ▸ prefix_append _ _)⟩

/-- What the inflater was given in a run, whatever its end. -/
def written : Fed σ (Archive × Feeder σ) → List UInt8
  | .ok r => r.2.written
  | .error e => e.2.written

/-- Once all bytes have passed the feeder, they decide about the archive. -/
theorem finish_spec {bytes : List UInt8} {f : Feeder σ} (holding : Holding i bytes f) (long : 18 ≤ bytes.length)
    (passes : Passes i expected bytes) :
    (∃ f', f.finish i sha256 expected = .ok (⟨bytes.length,sha256 bytes,lastEight bytes⟩,f') ∧
      f'.written = f.written ∧ f'.inflater = f.inflater ∧
      (Accepts i sha256 expected bytes ↔ trailerMatches (lastEight bytes) (i.output f.inflater))) ∨
    ¬Accepts i sha256 expected bytes ∧ Fails (f.finish i sha256 expected) (· = f.written) := by
  have header : f.header.length = 10 := by
    rw [holding.header,length_take]
    omega
  have trailer : f.tail = lastEight bytes := by
    rw [holding.tail,lastEight,lastEight,drop_drop,length_drop]
    congr 1
    omega
  have eight : (lastEight bytes).length = 8 := by
    rw [lastEight,length_drop]
    omega
  have inflated := holding.inflater
  rw [holding.written] at inflated
  simp only [Feeder.finish,holding.compressed,trailer,header,eight,holding.inflateEndedEarly,ne_eq,not_true,
    Bool.false_eq_true,if_false]
  split
  next size => exact .inr ⟨fun accepts => size accepts.byteLength,_,_,rfl,rfl⟩
  next size =>
    split
    next hash => exact .inr ⟨fun accepts => hash accepts.digest,_,_,rfl,rfl⟩
    next hash =>
      rw [Feeder.finishInflater,if_neg (by simp [holding.endedInflater])]
      split
      next complete =>
        refine .inl ⟨{ f with endedInflater := true },?_,rfl,rfl,fun accepts => ?_,fun same =>
          ⟨not_not.mp size,passes.1,not_not.mp hash,_,inflated,complete,same⟩⟩
        · rw [← trailer,← holding.compressed]
          rfl
        · obtain ⟨s,all,-,same⟩ := accepts.inflates
          obtain rfl : s = f.inflater := by simpa [inflated] using all.symm
          exact same
      next partly =>
        refine .inr ⟨fun accepts => ?_,_,_,rfl,rfl⟩
        obtain ⟨s,all,complete,-⟩ := accepts.inflates
        obtain rfl : s = f.inflater := by simpa [inflated] using all.symm
        exact partly complete

/-- The bytes alone decide how a pass ends. -/
theorem executePass_spec {bytes : List UInt8} (long : 18 ≤ bytes.length)
    (valid : validGzipHeader (bytes.take 10) = true) {chunks : List (List UInt8)} (cut : chunks.flatten = bytes) :
    (Accepts i sha256 expected bytes ∧ ∃ f, f.written = butLastEight (bytes.drop 10) ∧
      executePass i sha256 expected (chunks.map some) = .ok (⟨bytes.length,sha256 bytes,lastEight bytes⟩,f)) ∨
    ¬Accepts i sha256 expected bytes ∧ Fails (executePass i sha256 expected (chunks.map some)) fun written =>
      written <+: butLastEight (bytes.drop 10) ∧
        (Passes i expected bytes → written = butLastEight (bytes.drop 10)) := by
  subst cut
  have start : Passes i expected [] := ⟨by simp [maxSafeInteger],Nat.zero_le _,_,rfl⟩
  rw [executePass]
  rcases chunks_spec i expected (.new i) start chunks valid with ⟨passes,f,ok,holding⟩ | ⟨refused,fails⟩
  · have all : ∀ {written}, written = f.written → written <+: butLastEight (chunks.flatten.drop 10) ∧
        (Passes i expected chunks.flatten → written = butLastEight (chunks.flatten.drop 10)) := by
      rintro _ rfl
      exact ⟨holding.written ▸ prefix_rfl,fun _ => holding.written⟩
    have ran : run i sha256 expected (chunks.map some) = f.finish i sha256 expected := by
      rw [run,ok]
      rfl
    rw [ran]
    rcases finish_spec i sha256 expected holding long passes with
      ⟨f',finished,written,inflater,accepts⟩ | ⟨refused,code,f',failed,written⟩
    · rw [finished]
      rw [← inflater] at accepts
      by_cases same : trailerMatches (lastEight chunks.flatten) (i.output f'.inflater)
      · exact .inl ⟨accepts.mpr same,f',written.trans holding.written,if_pos same⟩
      · exact .inr ⟨mt accepts.mp same,_,f',if_neg same,all written⟩
    · exact .inr ⟨refused,code,f',by rw [failed]; rfl,all written⟩
  · obtain ⟨code,f,failed,front⟩ := fails
    refine .inr ⟨fun accepts => refused ?_,code,f,by rw [run,failed]; rfl,front,fun passes => absurd passes refused⟩
    obtain ⟨s,all,-⟩ := accepts.inflates
    exact ⟨accepts.safe,accepts.byteLength.le,s,all⟩

/-- However the archive is cut, the same bytes are accepted. The inflater is given what is between the header
and the last eight bytes, or the front of it where the stream ends too early or the archive is too long, and
those eight are the trailer. -/
theorem run_chunked {bytes : List UInt8} (long : 18 ≤ bytes.length)
    (valid : validGzipHeader (bytes.take 10) = true) {chunks : List (List UInt8)} (cut : chunks.flatten = bytes) :
    ((∃ r, executePass i sha256 expected (chunks.map some) = .ok r) ↔ Accepts i sha256 expected bytes) ∧
      (∀ archive f, executePass i sha256 expected (chunks.map some) = .ok (archive,f) →
        f.written = butLastEight (bytes.drop 10) ∧ archive.trailer = lastEight bytes) ∧
      written (executePass i sha256 expected (chunks.map some)) <+: butLastEight (bytes.drop 10) ∧
      (Passes i expected bytes →
        written (executePass i sha256 expected (chunks.map some)) = butLastEight (bytes.drop 10)) := by
  rcases executePass_spec i sha256 expected long valid cut with ⟨accepts,f,all,ok⟩ | ⟨refused,code,f,failed,front⟩
  · rw [ok]
    refine ⟨⟨fun _ => accepts,fun _ => ⟨_,rfl⟩⟩,?_,all ▸ prefix_rfl,fun _ => all⟩
    rintro archive f' ⟨⟩
    exact ⟨all,rfl⟩
  · rw [failed]
    refine ⟨⟨?_,fun accepts => absurd accepts refused⟩,by rintro _ _ ⟨⟩,front⟩
    rintro ⟨_,⟨⟩⟩

/-- The compressed stream of the one byte `a`, as a stored block. -/
def storedBlock : List UInt8 := [1,1,0,0xFE,0xFF,0x61]

def storedStream : Inflater Nat where
  start := 0
  inflate s b := if storedBlock[s]? = some b then some (s + 1) else none
  ended s := s = 6
  complete s := s = 6
  output s := [0x61].take (s - 5)

def storedArchive : List UInt8 :=
  [0x1F,0x8B,8,0,0,0,0,0,0,255] ++ storedBlock ++ [0x43,0xBE,0xB7,0xE8,1,0,0,0]

theorem run_chunked_stored :
    ((∃ r, executePass storedStream (fun _ => []) ⟨24,[]⟩
        ([storedArchive.take 11,[],storedArchive.drop 11].map some) = .ok r) ↔
      Accepts storedStream (fun _ => []) ⟨24,[]⟩ storedArchive) ∧
    ∃ r, executePass storedStream (fun _ => []) ⟨24,[]⟩
      ([storedArchive.take 11,[],storedArchive.drop 11].map some) = .ok r :=
  have runs := (run_chunked storedStream (fun _ => []) ⟨24,[]⟩ (by decide) (by decide) rfl).1
  ⟨runs,runs.mpr ⟨rfl,by decide,rfl,6,by decide,rfl,by decide⟩⟩

/-- Two bytes after the end of the compressed stream, one by one: the inflater is given the first only. -/
theorem feeder_stops : written (executePass storedStream (fun _ => []) ⟨26,[]⟩
    ((storedArchive ++ [0,0]).map fun b => some [b])) ≠ butLastEight ((storedArchive ++ [0,0]).drop 10) := by
  decide

end GjcRemote.ServiceArchive
