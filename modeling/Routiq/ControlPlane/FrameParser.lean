import Routiq.Core.Framing
import Routiq.Core.Strings
import Routiq.Core.Decimal

/-! The incremental frame parser of the config sync agent: where the first
frame of its buffer ends, what a frame says, and the drain of the buffer. -/
namespace Routiq.ControlPlane.FrameParser
open Core Runs Framing Strings Decimal List Option

/-! ## One frame -/

structure SseEvent where
  id : Option Nat
  (event data : String)
deriving DecidableEq

structure Fields where
  id : Option Nat
  event : String
  dataLines : List Text
  sawField : Bool
deriving DecidableEq

def Fields.initial : Fields := ⟨none,"message",[],false⟩

/-- `retry` and unknown fields set nothing. -/
def Fields.set (fields : Fields) (name value : Text) : Fields :=
  if name = "id".toList then
    match parseU64 value with
    | some id => { fields with id := some id }
    | none => fields
  else if name = "event".toList then
    if value = [] then fields else { fields with event := String.ofList value }
  else if name = "data".toList then { fields with dataLines := fields.dataLines ++ [value] }
  else fields

def stripReturn (line : Text) : Text := if line.getLast? = some '\r' then line.dropLast else line

def parseLine (fields : Fields) (rawLine : Text) : Fields :=
  let line := stripReturn rawLine
  if line = [] then fields
  else if line.head? = some ':' then fields
  else
    let fields := { fields with sawField := true }
    match find [':'] line with
    | some position => fields.set (line.take position) (trimStart (line.drop (position + 1)))
    | none => fields.set line []

/-- A frame without an event type and without data is not dispatched. -/
def Fields.dispatch (fields : Fields) : Option SseEvent :=
  if fields.sawField = false then none
  else if fields.event = "message" ∧ fields.dataLines = [] then none
  else some ⟨fields.id,fields.event,String.ofList (['\n'].intercalate fields.dataLines)⟩

def parseFrame (block : Text) : Option SseEvent := ((lines block).foldl parseLine .initial).dispatch

/-! ## The buffer -/

def frameEnd (buf : Text) : Option Nat :=
  let lf := (find ['\n','\n'] buf).map (· + 2)
  let crlf := (find ['\r','\n','\r','\n'] buf).map (· + 4)
  match lf, crlf with
  | some lf, some crlf => some (min lf crlf)
  | some lf, none => some lf
  | none, some crlf => some crlf
  | none, none => none

def sseFramer : Framer Char := .either (.terminated ['\n','\n'] (cons_ne_nil _ _))
    (.terminated ['\r','\n','\r','\n'] (cons_ne_nil _ _))

theorem sseFramer_frameEnd (buf : Text) : sseFramer.frameEnd buf = frameEnd buf := by
  have hframer : sseFramer.frameEnd buf = earlier ((find ['\n','\n'] buf).map (· + 2))
      ((find ['\r','\n','\r','\n'] buf).map (· + 4)) := rfl
  rw [hframer,frameEnd]
  cases find ['\n','\n'] buf with
  | none | some lf =>
    cases find ['\r','\n','\r','\n'] buf with
    | none | some crlf => rfl

def isLineEnd (character : Char) : Bool := character = '\n' || character = '\r'
def parseBlock (block : Text) : Option SseEvent := parseFrame (block.rdropWhile isLineEnd)

def drainFrames (buf : Text) : List SseEvent × Text :=
  let drained := sseFramer.drain buf
  (drained.frames.filterMap parseBlock,drained.rest)

structure Received where
  events : List SseEvent
  buf : Text
deriving DecidableEq

def Received.push (received : Received) (read : Text) : Received :=
  let drained := drainFrames (received.buf ++ read)
  ⟨received.events ++ drained.1,drained.2⟩

theorem run_push (fed : Drained Char) (reads : List Text) :
    run Received.push ⟨fed.frames.filterMap parseBlock,fed.rest⟩ reads =
      ⟨(run sseFramer.feed fed reads).frames.filterMap parseBlock,(run sseFramer.feed fed reads).rest⟩ := by
  induction reads generalizing fed with
  | nil => rfl
  | cons read reads ih =>
    rw [run_cons,run_cons,← ih]
    simp only [Received.push,drainFrames,Framer.feed,filterMap_append]

/-! ## The reader of the stream -/

/-- `BufRead::read_line` hands out the bytes up to a line feed. -/
def lineFramer : Framer UInt8 := .terminated [10] (cons_ne_nil _ _)

def maxBuffer : Nat := 256 * 1024

/-- One line of the stream: a buffer that has grown too long is thrown away. -/
def Received.pushLine (received : Received) (line : Text) : Received :=
  let buf := received.buf ++ line
  let buf := if maxBuffer < (utf8 buf).length then [] else buf
  let drained := drainFrames buf
  ⟨received.events ++ drained.1,drained.2⟩

/-- A line that is not UTF-8 is a read error and ends the connection. -/
def readLines (received : Received) : List (List UInt8) → Received
  | [] => received
  | line :: lines =>
    match fromUtf8 line with
    | none => received
    | some text => readLines (received.pushLine text) lines

/-- The whole of a connection, up to the end of the stream: the bytes arrive in
packets, the last line need not be complete. -/
def runStream (packets : List (List UInt8)) : Received :=
  let read := run lineFramer.feed ⟨[],[]⟩ packets
  readLines ⟨[],[]⟩ (read.frames ++ if read.rest = [] then [] else [read.rest])

theorem readLines_utf8 (received : Received) (texts : List Text) :
    readLines received (texts.map utf8) = run .pushLine received texts := by
  induction texts generalizing received with
  | nil => rfl
  | cons text texts ih =>
    rw [map_cons,readLines,fromUtf8_utf8,run_cons]
    exact ih _

theorem lineFramer_none {text : Text} (hfeed : '\n' ∉ text) : lineFramer.frameEnd (utf8 text) = none := by
  have hskip : find [10] (utf8 text ++ []) = (find [10] []).map (· + (utf8 text).length) :=
    find_skip [] (lineFeed_not_mem_utf8 hfeed)
  rw [append_nil] at hskip
  change (find [10] (utf8 text)).map _ = none
  rw [hskip]
  rfl

variable {line : Text}

theorem lineFramer_line (hfeed : '\n' ∉ line) : lineFramer.Complete (utf8 (line ++ ['\n'])) := by
  have hbytes : utf8 (line ++ ['\n']) = utf8 line ++ [10] := utf8_append line ['\n']
  have hfound : find [(10 : UInt8)] [10] = some 0 := rfl
  change (find [10] (utf8 (line ++ ['\n']))).map _ = _
  rw [hbytes,find_skip _ (lineFeed_not_mem_utf8 hfeed),hfound]
  simp

theorem drain_utf8 (text : Text) :
    let read := lineFramer.drain (utf8 text)
    (read.frames ++ if read.rest = [] then [] else [read.rest]) = (splitInclusive text).map utf8 := by
  induction text using line_induction with
  | last text hfeed =>
    rw [Framer.drain_none (lineFramer_none hfeed)]
    cases text with
    | nil => rfl
    | cons first rest =>
      have hne := cons_ne_nil first rest
      rw [splitInclusive_last hfeed hne]
      dsimp only
      rw [if_neg (utf8_ne_nil hne)]
      rfl
  | line line rest hline ih =>
    have hend : lineFramer.frameEnd (utf8 (line ++ ['\n']) ++ utf8 rest) =
        some (utf8 (line ++ ['\n'])).length := lineFramer.stable _ (lineFramer_line hline)
    have hbytes : utf8 (line ++ '\n' :: rest) = utf8 (line ++ ['\n']) ++ utf8 rest := by
      rw [← utf8_append]
      simp
    rw [splitInclusive_line rest hline,hbytes,Framer.drain_some hend,take_left,drop_left,map_cons,← ih]
    rfl

theorem runStream_eq {text : Text} {packets : List (List UInt8)} (hpackets : packets.flatten = utf8 text) :
    runStream packets = run .pushLine ⟨[],[]⟩ (splitInclusive text) := by
  have hread : run lineFramer.feed (lineFramer.drain []) packets = lineFramer.drain ([] ++ packets.flatten) :=
    Framer.run_feed [] packets
  rw [nil_append,hpackets] at hread
  have hstart : lineFramer.drain [] = ⟨[],[]⟩ := rfl
  rw [hstart] at hread
  unfold runStream
  rw [hread,← readLines_utf8,← drain_utf8]

structure Fits (frame : Text) : Prop where
  complete : sseFramer.Complete frame
  short : (utf8 frame).length ≤ maxBuffer

theorem pushLine_of_short {received : Received} (hshort : (utf8 (received.buf ++ line)).length ≤ maxBuffer) :
    received.pushLine line = received.push line := by
  unfold Received.pushLine Received.push
  dsimp only
  rw [if_neg (Nat.not_lt.mpr hshort)]

variable {frame rest : Text}

theorem Fits.prefix_short {first : Text} (hfits : Fits frame) (hframe : frame = first ++ rest) :
    (utf8 first).length ≤ maxBuffer := by
  have hshort := hfits.short
  rw [hframe,utf8_append,length_append] at hshort
  omega

variable {lines : List Text} (events : List SseEvent)

theorem run_pushLine_within {buf : Text} (hfits : Fits frame) (hframe : frame = buf ++ lines.flatten ++ rest)
    (hrest : rest ≠ []) : run Received.pushLine ⟨events,buf⟩ lines = ⟨events,buf ++ lines.flatten⟩ := by
  induction lines generalizing buf with
  | nil => rw [run_nil,flatten_nil,append_nil]
  | cons line lines ih =>
    have hsplit : frame = (buf ++ line) ++ (lines.flatten ++ rest) := by
      rw [hframe]
      simp
    have hnone : sseFramer.frameEnd (buf ++ line) = none := by
      apply Framer.frameEnd_of_proper_prefix hfits.complete hsplit
      simp [hrest]
    have hpush : Received.pushLine ⟨events,buf⟩ line = ⟨events,buf ++ line⟩ := by
      rw [pushLine_of_short (hfits.prefix_short hsplit),Received.push,drainFrames,Framer.drain_none hnone]
      simp
    rw [run_cons,hpush,ih (by rw [hsplit]; simp)]
    simp

theorem pushLine_completes {buf : Text} (hfits : Fits frame) (hframe : frame = buf ++ line) :
    Received.pushLine ⟨events,buf⟩ line = ⟨events ++ (parseBlock frame).toList,[]⟩ := by
  have hdrain : sseFramer.drain (buf ++ line) = ⟨[frame],[]⟩ := by
    have hend : sseFramer.frameEnd frame = some frame.length := hfits.complete
    have hrest : sseFramer.drain [] = ⟨[],[]⟩ := rfl
    rw [← hframe,Framer.drain_some hend,take_length,drop_length,hrest]
  have hshort : (utf8 (buf ++ line)).length ≤ maxBuffer := by
    rw [← hframe]
    exact hfits.short
  rw [pushLine_of_short hshort,Received.push,drainFrames,hdrain]
  cases hparsed : parseBlock frame with
  | none | some event => simp [hparsed]

theorem run_pushLine_frame (hfits : Fits frame) (hframe : frame = lines.flatten) (hne : lines ≠ [])
    (hlines : ∀ line ∈ lines, line ≠ []) :
    run Received.pushLine ⟨events,[]⟩ lines = ⟨events ++ (parseBlock frame).toList,[]⟩ := by
  obtain ⟨earlier,last,rfl⟩ : ∃ earlier last, lines = earlier ++ [last] :=
    ⟨lines.dropLast,lines.getLast hne,(dropLast_append_getLast hne).symm⟩
  have hlast := hlines last (mem_append_right _ mem_cons_self)
  have hsplit : frame = earlier.flatten ++ last := by
    rw [hframe]
    simp
  rw [run_append,run_pushLine_within events hfits (by rw [hsplit]; rfl) hlast,run_cons,run_nil]
  exact pushLine_completes events hfits hsplit

/-! ## Frames made of fields -/

def frameText (lines : List Text) : Text := unlines lines ++ ['\n']

theorem find_blankLine (hlines : ∀ line ∈ lines, OneLine line ∧ line ≠ []) (hne : lines ≠ []) :
    (find ['\n','\n'] (frameText lines)).map (· + 2) = some (frameText lines).length := by
  induction lines with
  | nil => contradiction
  | cons line lines ih =>
    have hline := (hlines line mem_cons_self).1.1
    cases lines with
    | nil =>
      have hfound : find ['\n','\n'] ['\n','\n'] = some 0 := rfl
      have htext : frameText [line] = line ++ ['\n','\n'] := by simp [frameText]
      rw [htext,find_skip _ hline,hfound]
      simp
    | cons next lines =>
      have hnext := hlines next (mem_cons_of_mem line mem_cons_self)
      have hrest := ih (fun other hother => hlines other (mem_cons_of_mem line hother))
        (cons_ne_nil next lines)
      have htext : frameText (line :: next :: lines) = line ++ '\n' :: frameText (next :: lines) := by
        simp [frameText]
      -- the line feed at the end of `line` is followed by the first character of `next`
      have hstart : ¬ ['\n','\n'] <+: '\n' :: frameText (next :: lines) := by
        intro hfront
        have hfeed := (cons_prefix_cons.mp hfront).2
        cases next with
        | nil => exact hnext.2 rfl
        | cons first rest =>
          have hfirst : '\n' = first := by
            simp only [frameText,unlines_cons,cons_append, cons_prefix_cons] at hfeed
            exact hfeed.1
          exact hnext.1.1 (hfirst ▸ mem_cons_self)
      obtain ⟨position,hfind,hlength⟩ := map_eq_some_iff.mp hrest
      rw [htext,find_skip _ hline,find,if_neg hstart,hfind]
      simp only [map_some,length_append,length_cons,some.injEq]
      omega

theorem not_mem_frameText (hlines : ∀ line ∈ lines, OneLine line) : '\r' ∉ frameText lines := by
  induction lines with
  | nil => decide
  | cons line lines ih =>
    have hline := (hlines line mem_cons_self).2
    have hrest := ih fun other hother => hlines other (mem_cons_of_mem line hother)
    have htext : frameText (line :: lines) = line ++ '\n' :: frameText lines := by simp [frameText]
    rw [htext,mem_append,mem_cons]
    exact not_or.mpr ⟨hline,not_or.mpr ⟨by decide,hrest⟩⟩

theorem frameText_complete (hlines : ∀ line ∈ lines, OneLine line ∧ line ≠ []) (hne : lines ≠ []) :
    sseFramer.Complete (frameText lines) := by
  have hreturn := not_mem_frameText fun line hmem => (hlines line hmem).1
  have hcrlf : find ['\r','\n','\r','\n'] (frameText lines) = none := by
    have hskip : find ['\r','\n','\r','\n'] (frameText lines ++ []) =
        (find ['\r','\n','\r','\n'] []).map (· + (frameText lines).length) := find_skip [] hreturn
    rw [append_nil] at hskip
    rw [hskip]
    rfl
  apply earlier_eq_some.mpr
  refine .inl ⟨find_blankLine hlines hne,fun other hother => ?_⟩
  obtain ⟨position,hfind,_⟩ := map_eq_some_iff.mp hother
  rw [hcrlf] at hfind
  contradiction

theorem frameText_trimmed (written : List Text) {last : Text} (hlast : OneLine last) (hne : last ≠ []) :
    (frameText (written ++ [last])).rdropWhile isLineEnd = unlines written ++ last := by
  have htext : frameText (written ++ [last]) = (unlines written ++ last ++ ['\n']) ++ ['\n'] := by
    simp [frameText]
  have hend : ¬isLineEnd (last.getLast hne) = true := by
    have hmem := getLast_mem hne
    intro hlineEnd
    rcases Bool.or_eq_true_iff.mp hlineEnd with hfeed | hreturn
    · rw [of_decide_eq_true hfeed] at hmem
      exact hlast.1 hmem
    · rw [of_decide_eq_true hreturn] at hmem
      exact hlast.2 hmem
  rw [htext,rdropWhile_concat_pos _ _ _ (by decide),rdropWhile_concat_pos _ _ _ (by decide),
    ← dropLast_append_getLast hne,← append_assoc,rdropWhile_concat_neg _ _ _ hend]

theorem parseBlock_frameText {written : List Text} {last : Text} (hlines : ∀ line ∈ written, OneLine line)
    (hlast : OneLine last) (hne : last ≠ []) :
    parseBlock (frameText (written ++ [last])) = ((written ++ [last]).foldl parseLine .initial).dispatch := by
  unfold parseBlock parseFrame
  rw [frameText_trimmed written hlast hne,lines_unlines_append hlines hlast hne]

theorem parseLine_field (fields : Fields) {name value : Text} {first : Char} (hname : OneLine name)
    (hcolon : ':' ∉ name) (hne : name ≠ []) (hvalue : OneLine value) (hstart : value = first :: rest)
    (hfirst : isWhitespace first = false) :
    parseLine fields (name ++ ':' :: ' ' :: value) = { fields with sawField := true }.set name value := by
  have hreturn : ¬(name ++ ':' :: ' ' :: value).getLast? = some '\r' := by
    intro hlast
    have hmem := mem_of_getLast? hlast
    rw [mem_append,mem_cons,mem_cons] at hmem
    rcases hmem with hmem | hmem | hmem | hmem
    · exact hname.2 hmem
    · contradiction
    · contradiction
    · exact hvalue.2 hmem
  have hhead : ¬(name ++ ':' :: ' ' :: value).head? = some ':' := by
    rw [head?_append_of_ne_nil _ hne]
    exact fun hhead => hcolon (mem_of_head? hhead)
  have hfind : find [':'] (name ++ ':' :: ' ' :: value) = some name.length := by
    have hfound : find [':'] (':' :: ' ' :: value) = some 0 := if_pos (prefix_append [':'] _)
    rw [find_skip _ hcolon,hfound]
    simp
  have hvalueAt : (name ++ ':' :: ' ' :: value).drop (name.length + 1) = ' ' :: value := by simp
  unfold parseLine stripReturn
  rw [if_neg hreturn]
  dsimp only
  rw [if_neg (by simp),if_neg hhead,hfind]
  dsimp only
  rw [take_left,hvalueAt,trimStart_blank hstart hfirst]

end Routiq.ControlPlane.FrameParser
