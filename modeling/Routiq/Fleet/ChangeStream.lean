import Routiq.ControlPlane.ChangeFrames
import Routiq.ControlPlane.FrameParser

/-! The change stream from end to end: the agent receives exactly the events
the control plane sent, however the stream is cut on the way. -/
namespace Routiq.Fleet.ChangeStream
open Core Runs Framing Strings Decimal List Option ControlPlane.ChangeFrames ControlPlane.FrameParser

/-! ## What is sent and what should arrive -/

def streamText (frames : List StreamFrame) : Text := (frames.map StreamFrame.text).flatten

def eventOf : StreamFrame → Option SseEvent
  | .retry => none
  | .configChanged event =>
    some ⟨some event.revision,"config_changed",String.ofList (changedData event)⟩
  | .configStale stale => some ⟨none,"config_stale",String.ofList (staleData stale)⟩
  | .heartbeat nowSecs latest =>
    some ⟨none,"heartbeat",String.ofList (heartbeatData nowSecs latest)⟩

def InRange : StreamFrame → Prop
  | .configChanged event => event.revision < 2^64
  | .retry | .configStale _ | .heartbeat _ _ => True

/-! ## One frame -/

/-- A value that follows the blank after a colon and is read back as it is. -/
structure Plain (value : Text) : Prop where
  oneLine : OneLine value
  starts : ∃ first rest, value = first :: rest ∧ isWhitespace first = false

theorem plain_repr (value : Nat) : Plain value.repr.toList := by
  refine ⟨repr_oneLine value,?_⟩
  cases hdigits : value.repr.toList with
  | nil => exact absurd hdigits (repr_ne_nil value)
  | cons first rest =>
    have hmem : first ∈ value.repr.toList := by
      rw [hdigits]
      exact mem_cons_self
    exact ⟨first,rest,rfl,isWhitespace_of_isDigit (isDigit_of_mem_repr hmem)⟩

theorem plain_printObject (members : List (String × Scalar)) : Plain (printObject members) :=
  ⟨oneLine_cons (by decide) (by decide) ((printMembers_oneLine members).append ⟨by decide,by decide⟩),
    '\x7b',printMembers members ++ ['\x7d'],rfl,by decide⟩

variable {value : Text}

theorem field_oneLine {name : String} (hname : OneLine name.toList) (hvalue : OneLine value) :
    OneLine (field name value) :=
  hname.append (oneLine_cons (by decide) (by decide) (oneLine_cons (by decide) (by decide) hvalue))

theorem field_ne_nil (name : String) (value : Text) : field name value ≠ [] := by
  simp [field]

theorem parseLine_named (fields : Fields) {name : String} (hname : OneLine name.toList)
    (hcolon : ':' ∉ name.toList) (hne : name.toList ≠ []) (hvalue : Plain value) :
    parseLine fields (field name value) = { fields with sawField := true }.set name.toList value := by
  obtain ⟨first,rest,hstart,hfirst⟩ := hvalue.starts
  exact parseLine_field fields hname hcolon hne hvalue.oneLine hstart hfirst

theorem Plain.ne_nil (hvalue : Plain value) : value ≠ [] := by
  obtain ⟨first,rest,rfl,_⟩ := hvalue.starts
  exact cons_ne_nil first rest

variable {id : Option Nat} {event : String} {data : Text}

theorem fieldLines_oneLine (hevent : OneLine event.toList) (hdata : OneLine data) :
    ∀ line ∈ fieldLines id event data, OneLine line ∧ line ≠ [] := by
  intro line hmem
  rcases mem_append.mp hmem with hid | hothers
  · obtain ⟨value,_,rfl⟩ := map_eq_some_iff.mp (mem_toList.mp hid)
    exact ⟨field_oneLine ⟨by decide,by decide⟩ (repr_oneLine value),field_ne_nil _ _⟩
  · rcases mem_cons.mp hothers with rfl | hlast
    · exact ⟨field_oneLine ⟨by decide,by decide⟩ hevent,field_ne_nil _ _⟩
    · obtain rfl := mem_singleton.mp hlast
      exact ⟨field_oneLine ⟨by decide,by decide⟩ hdata,field_ne_nil _ _⟩

theorem foldl_fieldLines (hid : ∀ value, id = some value → value < 2^64)
    (hevent : Plain event.toList) (hdata : Plain data) :
    (fieldLines id event data).foldl parseLine Fields.initial = ⟨id,event,[data],true⟩ := by
  have htail : ∀ id sawField, [field "event" event.toList,field "data" data].foldl parseLine
      ⟨id,"message",[],sawField⟩ = ⟨id,event,[data],true⟩ := by
    intro id sawField
    rw [foldl_cons,parseLine_named _ ⟨by decide,by decide⟩ (by decide) (by decide) hevent,
      foldl_cons,parseLine_named _ ⟨by decide,by decide⟩ (by decide) (by decide) hdata]
    simp [Fields.set,hevent.ne_nil]
  unfold fieldLines
  cases id with
  | none => exact htail none false
  | some value =>
    have hparsed := parseU64_repr (hid value rfl)
    have hset : parseLine Fields.initial (field "id" value.repr.toList) =
        ⟨some value,"message",[],true⟩ := by
      rw [parseLine_named _ ⟨by decide,by decide⟩ (by decide) (by decide) (plain_repr value),
        Fields.set,if_pos rfl,hparsed]
      rfl
    rw [map_some,toList_some,singleton_append,foldl_cons,hset]
    exact htail (some value) true

structure Delivered (frame : StreamFrame) : Prop where
  complete : sseFramer.Complete frame.text
  parsed : parseBlock frame.text = eventOf frame
  ends : ∃ body, frame.text = body ++ ['\n']

variable {frame : StreamFrame}

theorem sseFrame_delivered (hframe : frame.text = sseFrame id event data)
    (hevent : eventOf frame = some ⟨id,event,String.ofList data⟩)
    (hid : ∀ value, id = some value → value < 2^64) (hname : Plain event.toList)
    (hdata : Plain data) : Delivered frame := by
  have hlines : ∀ line ∈ fieldLines id event data, OneLine line ∧ line ≠ [] :=
    fieldLines_oneLine hname.oneLine hdata.oneLine
  have htext : frame.text = frameText (fieldLines id event data) := by
    rw [hframe]
    exact sseFrame_eq hdata.oneLine hdata.ne_nil
  refine ⟨?_,?_,⟨_,htext⟩⟩
  · rw [htext]
    exact frameText_complete hlines (by simp [fieldLines])
  · have hsplit : fieldLines id event data =
        ((id.map fun id => field "id" id.repr.toList).toList ++ [field "event" event.toList]) ++
          [field "data" data] := by
      simp [fieldLines]
    rw [hsplit] at hlines
    rw [htext,hsplit,parseBlock_frameText (fun line hmem => (hlines line (mem_append_left _ hmem)).1)
      (hlines _ (mem_append_right _ mem_cons_self)).1 (field_ne_nil _ _),← hsplit,
      foldl_fieldLines hid hname hdata,hevent]
    simp [Fields.dispatch]

theorem retryText (digits : Text) :
    "retry: ".toList ++ digits ++ ['\n','\n'] = frameText [field "retry" digits] := by
  simp [frameText,field]

theorem retry_delivered : Delivered .retry := by
  have htext : StreamFrame.retry.text = frameText [field "retry" sseRetryMs.repr.toList] := retryText _
  have hline : OneLine (field "retry" sseRetryMs.repr.toList) :=
    field_oneLine ⟨by decide,by decide⟩ (repr_oneLine sseRetryMs)
  have hlines : ∀ line ∈ [field "retry" sseRetryMs.repr.toList], OneLine line ∧ line ≠ [] := by
    intro line hmem
    rw [mem_singleton.mp hmem]
    exact ⟨hline,field_ne_nil _ _⟩
  refine ⟨?_,?_,⟨_,htext⟩⟩
  · rw [htext]
    exact frameText_complete hlines (cons_ne_nil _ _)
  · have hblock := parseBlock_frameText (fun _ hmem => absurd hmem not_mem_nil) hline (field_ne_nil _ _)
    rw [nil_append] at hblock
    rw [htext,hblock,foldl_cons,foldl_nil,
      parseLine_named _ ⟨by decide,by decide⟩ (by decide) (by decide) (plain_repr sseRetryMs)]
    rfl

theorem delivered (hrange : InRange frame) : Delivered frame := by
  cases frame with
  | retry => exact retry_delivered
  | configChanged event =>
    apply sseFrame_delivered rfl rfl
    · rintro value ⟨⟩
      exact hrange
    · exact ⟨⟨by decide,by decide⟩,_,_,rfl,by decide⟩
    · exact plain_printObject _
  | configStale stale =>
    apply sseFrame_delivered rfl rfl
    · nofun
    · exact ⟨⟨by decide,by decide⟩,_,_,rfl,by decide⟩
    · cases stale with
      | gap latest | lagged => exact plain_printObject _
  | heartbeat nowSecs latest =>
    apply sseFrame_delivered rfl rfl
    · nofun
    · exact ⟨⟨by decide,by decide⟩,_,_,rfl,by decide⟩
    · exact plain_printObject _

/-! ## The whole stream -/

variable {frames : List StreamFrame}

theorem filterMap_parseBlock (hrange : ∀ frame ∈ frames, InRange frame) :
    (frames.map StreamFrame.text).filterMap parseBlock = frames.filterMap eventOf := by
  rw [filterMap_map]
  apply filterMap_congr
  intro frame hmem
  exact (delivered (hrange frame hmem)).parsed

theorem push_stream (hrange : ∀ frame ∈ frames, InRange frame) {tail : Text}
    (htail : sseFramer.frameEnd tail = none) {reads : List Text}
    (hreads : reads.flatten = streamText frames ++ tail) :
    run Received.push ⟨[],[]⟩ reads = ⟨frames.filterMap eventOf,tail⟩ := by
  have hcomplete : ∀ frame ∈ frames.map StreamFrame.text, sseFramer.Complete frame := by
    intro text hmem
    obtain ⟨frame,hframe,rfl⟩ := mem_map.mp hmem
    exact (delivered (hrange frame hframe)).complete
  have hfed : run sseFramer.feed (sseFramer.drain []) reads = ⟨frames.map StreamFrame.text,tail⟩ := by
    rw [Framer.run_feed,nil_append,hreads]
    exact Framer.drain_flatten hcomplete htail
  have hpushed := run_push (sseFramer.drain []) reads
  rw [hfed,filterMap_parseBlock hrange] at hpushed
  exact hpushed

theorem pushLine_stream {frame tail rest : Text}
    (hframes : ∀ frame ∈ frames, InRange frame ∧ (utf8 frame.text).length ≤ maxBuffer)
    (hfits : Fits frame) (htail : frame = tail ++ rest) (hrest : rest ≠ []) (events : List SseEvent) :
    run Received.pushLine ⟨events,[]⟩ (splitInclusive (streamText frames ++ tail)) =
      ⟨events ++ frames.filterMap eventOf,tail⟩ := by
  induction frames generalizing events with
  | nil =>
    have hlines := flatten_splitInclusive tail
    have hframe : frame = [] ++ (splitInclusive tail).flatten ++ rest := by
      rw [hlines]
      exact htail
    have hwithin := run_pushLine_within events hfits hframe hrest
    rw [hlines] at hwithin
    simpa [streamText] using hwithin
  | cons first frames ih =>
    obtain ⟨hrange,hshort⟩ := hframes first mem_cons_self
    have hfirst := delivered hrange
    obtain ⟨body,hbody⟩ := hfirst.ends
    have htext : streamText (first :: frames) ++ tail = body ++ '\n' :: (streamText frames ++ tail) := by
      simp [streamText,hbody]
    have hlines := flatten_splitInclusive first.text
    have hne : splitInclusive first.text ≠ [] := by
      intro hnil
      rw [hnil,hbody] at hlines
      exact absurd hlines.symm (by simp)
    rw [htext,splitInclusive_append,run_append,← hbody]
    have hframe := run_pushLine_frame events ⟨hfirst.complete,hshort⟩ hlines.symm hne
      (fun line => ne_nil_of_mem_splitInclusive)
    rw [hframe,ih fun other hother => hframes other (mem_cons_of_mem first hother),hfirst.parsed]
    cases hevent : eventOf first with
    | none | some event => simp [hevent]

/-- However the stream is cut, inside a line or between the two line feeds of a
terminator, the agent gets the events that were sent and keeps the unfinished
frame: when reads are appended and drained one by one, and in the reader of a
connection, whose packets may even cut a character. -/
theorem stream_round_trip (frames : List StreamFrame) (hrange : ∀ frame ∈ frames, InRange frame)
    (next : StreamFrame) (hnext : InRange next) (tail rest : Text) (htail : next.text = tail ++ rest)
    (hrest : rest ≠ []) :
    (∀ reads : List Text, reads.flatten = streamText frames ++ tail →
      run Received.push ⟨[],[]⟩ reads = ⟨frames.filterMap eventOf,tail⟩) ∧
    ((∀ frame ∈ next :: frames, (utf8 frame.text).length ≤ maxBuffer) →
      ∀ packets : List (List UInt8), packets.flatten = utf8 (streamText frames ++ tail) →
        runStream packets = ⟨frames.filterMap eventOf,tail⟩) := by
  have hcomplete := (delivered hnext).complete
  constructor
  · intro reads hreads
    exact push_stream hrange (Framer.frameEnd_of_proper_prefix hcomplete htail hrest) hreads
  · intro hshort packets hpackets
    rw [runStream_eq hpackets]
    have hframes : ∀ frame ∈ frames, InRange frame ∧ (utf8 frame.text).length ≤ maxBuffer :=
      fun frame hmem => ⟨hrange frame hmem,hshort frame (mem_cons_of_mem next hmem)⟩
    exact pushLine_stream hframes ⟨hcomplete,hshort next mem_cons_self⟩ htail hrest []

def sampleFrames : List StreamFrame :=
  [.retry,.configChanged ⟨5,"v\n\"2\"",7,"FULL_SYNC"⟩,.heartbeat 9 5]

/-- Every character is a read of its own; the stream breaks off inside a frame. -/
theorem stream_round_trip_characters :
    run Received.push ⟨[],[]⟩ ((streamText sampleFrames).map ([·]) ++ ["event: config_st".toList]) =
      ⟨[⟨some 5,"config_changed",
          "\x7b\"configVersion\":\"v\\n\\\"2\\\"\",\"revision\":5,\"timestamp\":7,\"type\":\"FULL_SYNC\"\x7d"⟩,
        ⟨none,"heartbeat","\x7b\"latestRevision\":5,\"ts\":9\x7d"⟩],
        "event: config_st".toList⟩ := by
  have hrange : ∀ frame ∈ sampleFrames, InRange frame := by simp [sampleFrames,InRange]
  have hround := stream_round_trip sampleFrames hrange (.configStale .lagged) trivial
    "event: config_st".toList ((StreamFrame.configStale .lagged).text.drop 16) (by decide +kernel)
    (by decide +kernel)
  have hreads : ((streamText sampleFrames).map ([·]) ++ ["event: config_st".toList]).flatten =
      streamText sampleFrames ++ "event: config_st".toList := by
    rw [flatten_append,← flatMap_def,flatMap_singleton']
    rfl
  rw [hround.1 _ hreads]
  decide +kernel

end Routiq.Fleet.ChangeStream
