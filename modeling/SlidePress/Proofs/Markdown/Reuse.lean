import SlidePress.Markdown.Reader

/-!
# `SlidePress.Proofs.Markdown.Reuse` — a reader that is used again

A reader is one thing that changes with every line: it keeps what is pending in fields of its own, and adds blocks to a
stream that whoever it was returned to can still see. What it reads is nevertheless a function of the text. In every
state it stands in a mode (`Reader.mode`), a line takes it to the next mode and adds to its stream the blocks that the
mode emits (`step_mode`), and so do the lines of a whole text (`readLines_mode`). A text is begun with a new stream and
with nothing pending, whatever the last text has left, so the mode is the same every time.

That the fields say which mode it is needs one invariant, that nothing is pending in a fence. The streams need one more
fact: a line changes the stream that is filled and no other, and the one that is filled is always the newest, so those
that were returned before are a prefix that stays (`streams_prefix_readEach`).
-/

namespace SlidePress.Markdown

open Text

namespace Reader

variable {reader next last : Reader} {emitted later : List Block} {fence? : Option OpenFence}

/-! ## Blocks that are emitted -/

/-- **One reader has become another by emitting blocks**: these are added to the stream that is filled, it is still that
one, and no other stream has changed. -/
structure Emits (before after : Reader) (emitted : List Block) : Prop where
  place : after.place = before.place
  streams : after.streams = before.streams.modify before.place (emitted.reverse ++ ·)

/-- A reader that fills the same stream with the same in it has emitted nothing. -/
theorem emits_nil (place : next.place = reader.place) (streams : next.streams = reader.streams) :
    Emits reader next [] := by
  refine ⟨place, ?_⟩
  rw [streams]
  exact (List.modify_id reader.place reader.streams).symm

theorem emits_emit (reader : Reader) (block : Block) : Emits reader (reader.emit block) [block] := ⟨rfl, rfl⟩

theorem Emits.trans (first : Emits reader next emitted) (second : Emits next last later) :
    Emits reader last (emitted ++ later) := by
  refine ⟨second.place.trans first.place, ?_⟩
  rw [second.streams, first.streams, first.place, List.modify_modify_eq]
  congr 1
  funext blocks
  simp

/-! ## Modes -/

/-- The mode that a reader is in: in a fence if one is open, and else what its fields say. -/
def mode (reader : Reader) : Option OpenFence → Mode
  | some opened => .fenced opened.fence opened.lines
  | none =>
    match reader.kind? with
    | some kind => .pending { kind, number := reader.number, lines := reader.lines }
    | none => .idle

/-- In a fence nothing is pending. -/
def Settled (reader : Reader) (fence? : Option OpenFence) : Prop := fence?.isSome → reader.kind? = none

/-- **A reader does what its mode does**: both refuse the line, or the reader emits what the mode emits and is in the mode
after it. -/
inductive Agrees (reader : Reader) :
    Except NumeralTooLong (Reader × Option OpenFence) → Except NumeralTooLong (Mode × List Block) → Prop
  | refused (e : NumeralTooLong) : Agrees reader (.error e) (.error e)
  | read {next : Reader} {fence? : Option OpenFence} {emitted : List Block} : Emits reader next emitted →
      Settled next fence? → Agrees reader (.ok (next, fence?)) (.ok (next.mode fence?, emitted))

theorem emits_flush (reader : Reader) : Emits reader reader.flush (reader.mode none).close := by
  unfold flush mode
  cases reader.kind? with
  | none => exact emits_nil rfl rfl
  | some kind => exact ⟨rfl, rfl⟩

/-- And so it is where a block begins. -/
theorem emits_start (reader : Reader) (kind : ContentKind) (text : List Char) (number : Nat) :
    Emits reader (reader.start kind text number) (reader.mode none).close :=
  ⟨(emits_flush reader).place, (emits_flush reader).streams⟩

/-- Without an open fence there is nothing to be settled. -/
theorem settled_none (reader : Reader) : Settled reader none := fun opened => absurd opened Bool.false_ne_true

theorem mode_of_none (reader : Reader) (h : reader.kind? = none) : reader.mode none = .idle := by
  rw [mode, h]

theorem mode_of_some (reader : Reader) {kind : ContentKind} (h : reader.kind? = some kind) :
    reader.mode none = .pending { kind, number := reader.number, lines := reader.lines } := by
  rw [mode, h]

/-- In a fence nothing is pending, and nothing is when its block has been emitted. -/
theorem mode_emit {opened : OpenFence} (settled : Settled reader (some opened)) (block : Block) :
    (reader.emit block).mode none = .idle :=
  mode_of_none (reader.emit block) (settled rfl)

theorem agrees_extend {kind : ContentKind} (h : reader.kind? = some kind) (text : List Char) :
    Agrees reader (.ok (reader.extend text, none))
      (.ok (.pending { kind, number := reader.number, lines := text :: reader.lines }, [])) := by
  have same : (reader.extend text).mode none =
      .pending { kind, number := reader.number, lines := text :: reader.lines } :=
    mode_of_some (reader.extend text) h
  rw [← same]
  exact .read (emits_nil rfl rfl) (settled_none _)

theorem agrees_start (reader : Reader) (kind : ContentKind) (text : List Char) (number : Nat) :
    Agrees reader (.ok (reader.start kind text number, none))
      (.ok (.starting kind text number, (reader.mode none).close)) :=
  .read (emits_start reader kind text number) (settled_none _)

/-- **A line outside of fences** is taken as the mode takes it. -/
theorem stepForm_mode (reader : Reader) (form : LineForm) :
    Agrees reader (reader.stepForm form) ((reader.mode none).stepForm form) := by
  have flushed := emits_flush reader
  cases form with
  | codeFence => exact .read flushed fun _ => rfl
  | mathFence => exact .read flushed fun _ => rfl
  | formula text => exact .read (flushed.trans (emits_emit _ _)) (settled_none _)
  | heading depth text => exact .read (flushed.trans (emits_emit _ _)) (settled_none _)
  | blank => exact .read flushed (settled_none _)
  | bullet text => exact agrees_start reader .bullet text 0
  | numbered digits text =>
      rw [stepForm, Mode.stepForm]
      cases numeral digits with
      | error e => exact .refused e
      | ok n => exact agrees_start reader .numbered text n
  | quote text =>
      have started := agrees_start reader .quote text 0
      cases kind : reader.kind? with
      | none =>
          rw [mode_of_none reader kind] at started ⊢
          rw [stepForm, kind, if_neg (Option.some_ne_none _).symm]
          exact started
      | some k =>
          rw [mode_of_some reader kind] at started ⊢
          by_cases quote : k = .quote
          · rw [stepForm, Mode.stepForm, if_pos quote, kind, if_pos (congrArg some quote)]
            exact agrees_extend kind text
          · rw [stepForm, Mode.stepForm, if_neg quote, kind, if_neg fun same => quote (Option.some.inj same)]
            exact started
  | plain text =>
      have started := agrees_start reader .paragraph text 0
      cases kind : reader.kind? with
      | none =>
          rw [mode_of_none reader kind] at started ⊢
          rw [stepForm, kind, if_pos rfl]
          exact started
      | some k =>
          rw [mode_of_some reader kind, stepForm, kind, if_neg (Option.some_ne_none k)]
          exact agrees_extend kind text

/-- **A line** is taken as the mode takes it, inside of a fence and outside. -/
theorem step_mode (settled : Settled reader fence?) (line : List Char) :
    Agrees reader (reader.step fence? line) ((reader.mode fence?).step line) := by
  cases fence? with
  | none =>
      have outside : (reader.mode none).step line = (reader.mode none).stepForm (LineForm.of (trimRight line)) := by
        unfold mode
        cases reader.kind? <;> rfl
      rw [outside]
      exact stepForm_mode reader _
  | some opened =>
      have emitted := emits_emit reader (fencedBlock opened.fence opened.lines)
      rw [step, mode, Mode.step]
      split
      · rw [← mode_emit settled]
        exact .read emitted (settled_none _)
      · let longer : OpenFence := { opened with lines := trimRight line :: opened.lines }
        have taken : Settled reader (some longer) := settled
        exact .read (emits_nil rfl rfl) taken

/-! ## Texts -/

/-- **The end of a text** is taken as the mode takes it. -/
theorem emits_finish (settled : Settled reader fence?) :
    Emits reader (reader.finish fence?) (reader.mode fence?).close := by
  cases fence? with
  | none => exact emits_flush reader
  | some opened =>
      have emitted := emits_emit reader (fencedBlock opened.fence opened.lines)
      have flushed := emits_flush (reader.emit (fencedBlock opened.fence opened.lines))
      rw [mode_emit settled] at flushed
      exact emitted.trans flushed

/-- **The lines of a text** are taken as the modes take them: the reader emits their blocks into the stream that it fills,
unless a line is refused, and then it has emitted some of them. -/
theorem readLines_mode (settled : Settled reader fence?) (lines : List (List Char)) :
    ∃ emitted, Emits reader (reader.readLines fence? lines).1 emitted ∧
      (blocksFrom (reader.mode fence?) lines = .ok emitted ∧ (reader.readLines fence? lines).2 = .ok reader.place ∨
        ∃ e, blocksFrom (reader.mode fence?) lines = .error e ∧ (reader.readLines fence? lines).2 = .error e) := by
  induction lines generalizing reader fence? with
  | nil =>
      have finished := emits_finish settled
      exact ⟨_, finished, Or.inl ⟨rfl, congrArg Except.ok finished.place⟩⟩
  | cons line lines ih =>
      have agrees := step_mode settled line
      rw [readLines, blocksFrom]
      generalize reader.step fence? line = taken at agrees
      generalize (reader.mode fence?).step line = stepped at agrees
      cases agrees with
      | refused e => exact ⟨[], emits_nil rfl rfl, Or.inr ⟨e, rfl, rfl⟩⟩
      | @read next nextFence? emitted emits settled =>
          obtain ⟨later, more, outcome⟩ := ih settled
          refine ⟨emitted ++ later, emits.trans more, ?_⟩
          rcases outcome with ⟨blocks, found⟩ | ⟨e, blocks, refused⟩
          · refine Or.inl ⟨?_, ?_⟩
            · simp only [blocks]
              rfl
            · rw [← emits.place]
              exact found
          · refine Or.inr ⟨e, ?_, refused⟩
            simp only [blocks]
            rfl

/-- A new stream at the end of the others is the one that is changed. -/
theorem modify_append_new (streams : List (List Block)) (emitted : List Block) :
    (streams ++ [[]]).modify streams.length (emitted.reverse ++ ·) = streams ++ [emitted.reverse] := by
  induction streams with
  | nil => exact congrArg (fun last => [last]) (List.append_nil _)
  | cons first streams ih => exact congrArg (first :: ·) ih

/-- **What reading a text does to a reader**, whatever it has read before: one stream more is there, with the blocks of the
text, or with some of them if the text is refused. -/
theorem read_cases (reader : Reader) (text : String) :
    ∃ emitted, (reader.read text).1.streams = reader.streams ++ [emitted.reverse] ∧
      (blocksFrom .idle (splitLines text.toList) = .ok emitted ∧ (reader.read text).2 = .ok reader.streams.length ∨
        ∃ e, blocksFrom .idle (splitLines text.toList) = .error e ∧ (reader.read text).2 = .error e) := by
  obtain ⟨emitted, emits, outcome⟩ := readLines_mode (settled_none reader.reset) (splitLines text.toList)
  exact ⟨emitted, emits.streams.trans (modify_append_new reader.streams emitted), outcome⟩

/-- The streams that were there before are there after a text. -/
theorem streams_prefix_read (reader : Reader) (text : String) : reader.streams <+: (reader.read text).1.streams := by
  obtain ⟨emitted, streams, _⟩ := reader.read_cases text
  rw [streams]
  exact List.prefix_append _ _

/-- **The streams that were there before** are there after any number of texts. -/
theorem streams_prefix_readEach (reader : Reader) (texts : List String) :
    reader.streams <+: (reader.readEach texts).1.streams := by
  induction texts generalizing reader with
  | nil => exact List.prefix_rfl
  | cons text texts ih => exact (reader.streams_prefix_read text).trans (ih _)

/-- A stream that is still there has the blocks that it had. -/
theorem blocks_of_prefix (kept : reader.streams <+: last.streams) {place : Nat} (inside : place < reader.streams.length) :
    last.blocks place = reader.blocks place := by
  obtain ⟨more, same⟩ := kept
  rw [blocks, blocks, ← same, List.getElem?_append_left inside]

/-- **What a text gives** are the blocks of its lines, read from between blocks, and it is still that when other texts have
been read. -/
theorem read_outcome (reader : Reader) (text : String) {last : Reader}
    (kept : (reader.read text).1.streams <+: last.streams) :
    (reader.read text).2.map last.blocks = blocksFrom .idle (splitLines text.toList) := by
  obtain ⟨emitted, streams, ⟨blocks, found⟩ | ⟨e, blocks, refused⟩⟩ := reader.read_cases text
  · have inside : reader.streams.length < (reader.read text).1.streams.length := by
      rw [streams, List.length_append]
      exact Nat.lt_succ_self _
    rw [found, blocks, Except.map, blocks_of_prefix kept inside, Reader.blocks, streams, List.getElem?_concat_length]
    exact congrArg Except.ok (List.reverse_reverse emitted)
  · rw [refused, blocks]
    rfl

end Reader

/-- The blocks of a text are those of its lines, read from between blocks. -/
theorem read_eq (text : String) : read text = blocksFrom .idle (splitLines text.toList) :=
  ({} : Reader).read_outcome text List.prefix_rfl

/-! ## Several texts -/

namespace Reader

/-- **Texts read by one reader** give what each gives by itself, all of them still there in the end. -/
theorem readAll_eq_map_read (reader : Reader) (texts : List String) : reader.readAll texts = texts.map Markdown.read := by
  rw [readAll]
  induction texts generalizing reader with
  | nil => rfl
  | cons text texts ih =>
      have first := reader.read_outcome text ((reader.read text).1.streams_prefix_readEach texts)
      rw [← read_eq] at first
      exact List.cons_eq_cons.mpr ⟨first, ih _⟩

/-- **A reader can be used again.** After any texts, of which some may have been refused in the middle of a block and some
may have ended in a fence, a text gives what it gives by itself, or is refused for the same number. It still does when
any other texts have been read behind it, and the streams that were there before have not changed either. The reader may
have begun in any state. -/
theorem read_reused (reader : Reader) (before : List String) (text : String) (after : List String) :
    let used := (reader.readEach before).1
    let done := used.read text
    let last := (done.1.readEach after).1
    done.2.map done.1.blocks = Markdown.read text ∧ done.2.map last.blocks = Markdown.read text ∧
      ∀ place < used.streams.length, last.blocks place = used.blocks place := by
  intro used done last
  have kept : done.1.streams <+: last.streams := done.1.streams_prefix_readEach after
  rw [read_eq]
  refine ⟨used.read_outcome text List.prefix_rfl, used.read_outcome text kept, fun place inside => ?_⟩
  exact blocks_of_prefix ((used.streams_prefix_read text).trans kept) inside

end Reader

end SlidePress.Markdown
