import CompilerDriver.Proofs.Report.Lines

/-!
A report that does not fit.  Writing stops with the piece at which the room ends, wherever in the
report it stands (`Watched.writeEach_cut`); this is seen on a sink that is watched, under the same
loop (`Watched.writeAll_sink`).  So a report is cut exactly when it is longer than the room, and the
sink then holds its beginning (`writeReport_buffer`).
-/

namespace CompilerDriver

/-- Two ways to write that agree on each piece agree on all pieces. -/
theorem writeEach_map {σ τ : Type} {write : σ → Bytes → σ × Option WriteFault}
    {other : τ → Bytes → τ × Option WriteFault} {view : σ → τ}
    (hview : ∀ state piece, other (view state) piece = (write state piece).map view id)
    (state : σ) (pieces : List Bytes) :
    writeEach other (view state) pieces = (writeEach write state pieces).map view id := by
  induction pieces generalizing state with
  | nil => rfl
  | cons piece rest ih =>
      rw [writeEach, writeEach, hview]
      rcases write state piece with ⟨next, _ | fault⟩
      · exact ih next
      · rfl

namespace Sink

variable {room : Nat} {refusal : WriteFault} {held bytes : Bytes}

theorem write_of_le (hfits : bytes.length ≤ room) :
    write ⟨some room, refusal, held⟩ bytes =
      (⟨some (room - bytes.length), refusal, held ++ bytes⟩, none) := by
  simp [write, hfits, List.take_of_length_le hfits]

theorem write_of_lt (hcut : room < bytes.length) :
    write ⟨some room, refusal, held⟩ bytes =
      (⟨some 0, refusal, held ++ bytes.take room⟩, some refusal) := by
  have hfull : room - bytes.length = 0 := by omega
  simp [write, hfull, Nat.not_le.2 hcut]

end Sink

/-- A sink, and every piece that is written to it, whether it fits or not. -/
structure Watched where
  sink : Sink
  pieces : List Bytes := []

namespace Watched

def write (watched : Watched) (piece : Bytes) : Watched × Option WriteFault :=
  (watched.sink.write piece).map (⟨·, watched.pieces ++ [piece]⟩) id

/-- To watch a sink does not change what is written to it. -/
theorem writeAll_sink (watched : Watched) (pieces : List Bytes) :
    watched.sink.writeAll pieces = (writeEach write watched pieces).map sink id :=
  writeEach_map (fun _ _ => rfl) watched pieces

variable {room : Nat} {refusal : WriteFault} {held piece : Bytes}
  {before pieces after written : List Bytes}

/-- Pieces that fit are written, and those behind them find what room is left. -/
theorem writeEach_append (hfits : before.flatten.length ≤ room) (after : List Bytes) :
    writeEach write ⟨⟨some room, refusal, held⟩, written⟩ (before ++ after) =
      writeEach write ⟨⟨some (room - before.flatten.length), refusal, held ++ before.flatten⟩,
        written ++ before⟩ after := by
  induction before generalizing room held written with
  | nil => simp
  | cons piece rest ih =>
      rw [List.flatten_cons, List.length_append] at hfits
      have hpiece : piece.length ≤ room := by omega
      have hrest : rest.flatten.length ≤ room - piece.length := by omega
      rw [List.cons_append, writeEach, write, Sink.write_of_le hpiece]
      simp only [Prod.map, id_eq]
      rw [ih hrest]
      simp [Nat.sub_sub]

theorem writeEach_fits (hfits : pieces.flatten.length ≤ room) :
    writeEach write ⟨⟨some room, refusal, held⟩, written⟩ pieces =
      (⟨⟨some (room - pieces.flatten.length), refusal, held ++ pieces.flatten⟩,
        written ++ pieces⟩, none) := by
  rw [← List.append_nil pieces, writeEach_append (by simpa using hfits), List.append_nil]
  rfl

/-- The piece at which the room ends is written in part, and none behind it is. -/
theorem writeEach_cut (hfits : before.flatten.length ≤ room)
    (hcut : room < before.flatten.length + piece.length) (after : List Bytes) :
    writeEach write ⟨⟨some room, refusal, held⟩, written⟩ (before ++ piece :: after) =
      (⟨⟨some 0, refusal, held ++ (before ++ piece :: after).flatten.take room⟩,
        written ++ (before ++ [piece])⟩, some refusal) := by
  have hpiece : room - before.flatten.length < piece.length := by omega
  have htake : (before ++ piece :: after).flatten.take room =
      before.flatten ++ piece.take (room - before.flatten.length) := by
    rw [List.flatten_append, List.flatten_cons, List.take_append, List.take_of_length_le hfits,
      List.take_append_of_le_length (Nat.le_of_lt hpiece)]
  rw [writeEach_append hfits, writeEach, write, Sink.write_of_lt hpiece, htake]
  simp

end Watched

/-- Where the room ends in pieces that do not fit. -/
theorem exists_cut {pieces : List Bytes} {room : Nat} (hlong : room < pieces.flatten.length) :
    ∃ before piece after, pieces = before ++ piece :: after ∧ before.flatten.length ≤ room ∧
      room < before.flatten.length + piece.length := by
  induction pieces generalizing room with
  | nil => cases hlong
  | cons first rest ih =>
      rw [List.flatten_cons, List.length_append] at hlong
      by_cases hfirst : room < first.length
      · exact ⟨[], first, rest, rfl, Nat.zero_le _, by simpa using hfirst⟩
      · have hrest : room - first.length < rest.flatten.length := by omega
        obtain ⟨before, piece, after, rfl, hfits, hcut⟩ := ih hrest
        refine ⟨first :: before, piece, after, rfl, ?_, ?_⟩
        · rw [List.flatten_cons, List.length_append]
          omega
        · rw [List.flatten_cons, List.length_append]
          omega

theorem Watched.exists_writeEach_cut {pieces : List Bytes} {size : Nat}
    (hlong : size < pieces.flatten.length) :
    ∃ before piece after, pieces = before ++ piece :: after ∧ before.flatten.length ≤ size ∧
      size < before.flatten.length + piece.length ∧
      writeEach write { sink := .buffer size } pieces =
        (⟨⟨some 0, .incomplete, pieces.flatten.take size⟩, before ++ [piece]⟩,
          some .incomplete) := by
  obtain ⟨before, piece, after, rfl, hbefore, hpiece⟩ := exists_cut hlong
  exact ⟨before, piece, after, rfl, hbefore, hpiece, writeEach_cut hbefore hpiece after⟩

section buffer

variable {pieces : List Bytes} {size : Nat}

theorem Sink.writeAll_of_le (hfits : pieces.flatten.length ≤ size) :
    (buffer size).writeAll pieces =
      (⟨some (size - pieces.flatten.length), .incomplete, pieces.flatten⟩, none) := by
  have hwatched := Watched.writeAll_sink { sink := buffer size } pieces
  rw [hwatched]
  exact congrArg (Prod.map Watched.sink id) (Watched.writeEach_fits hfits)

theorem Sink.writeAll_of_lt (hlong : size < pieces.flatten.length) :
    (buffer size).writeAll pieces =
      (⟨some 0, .incomplete, pieces.flatten.take size⟩, some .incomplete) := by
  have hwatched := Watched.writeAll_sink { sink := buffer size } pieces
  obtain ⟨before, piece, after, _, _, _, hwrites⟩ := Watched.exists_writeEach_cut hlong
  rw [hwatched, hwrites]
  rfl

end buffer

namespace Configuration

theorem flatten_reportPieces (config : Configuration) :
    (config.reportPieces.map Utf8.encode).flatten = (config.writeReport .unlimited).1.held := by
  rw [writeReport, Sink.writeAll_of_room_eq_none rfl]
  rfl

/-- A report that is written to a buffer is cut exactly when it is longer than the buffer, which
then holds the report up to its size.  However the report is divided into pieces, nothing is written
behind the piece at which the room ends. -/
theorem writeReport_buffer (config : Configuration) (size : Nat) :
    let whole := (config.writeReport .unlimited).1.held
    let cut := config.writeReport (.buffer size)
    cut.1.held = whole.take (min size whole.length) ∧
      (cut.2 = some .incomplete ↔ size < whole.length) ∧
      (cut.2 = none ↔ whole.length ≤ size) ∧
      (config.reportPieces.map Utf8.encode).flatten = whole ∧
      ∀ pieces : List Bytes, pieces.flatten = whole →
        let watched := writeEach Watched.write { sink := .buffer size } pieces
        watched.1.sink = cut.1 ∧ watched.2 = cut.2 ∧
          (cut.2 = none ∧ watched.1.pieces = pieces ∨
            ∃ before piece after, pieces = before ++ piece :: after ∧
              before.flatten.length ≤ size ∧ size < before.flatten.length + piece.length ∧
              cut.2 = some .incomplete ∧ watched.1.pieces = before ++ [piece]) := by
  intro whole cut
  have hpieces : (config.reportPieces.map Utf8.encode).flatten = whole :=
    flatten_reportPieces config
  rcases Nat.lt_or_ge size whole.length with hlong | hfits
  · have hcut : cut = (⟨some 0, .incomplete, whole.take size⟩, some .incomplete) :=
      hpieces ▸ Sink.writeAll_of_lt (hpieces ▸ hlong)
    have hmin : min size whole.length = size := Nat.min_eq_left (Nat.le_of_lt hlong)
    refine ⟨by rw [hcut, hmin], by simp [hcut, hlong], by simp [hcut, hlong], hpieces, ?_⟩
    intro pieces hflatten
    rw [← hflatten] at hlong hcut
    obtain ⟨before, piece, after, hsplit, hbefore, hpiece, hwatched⟩ :=
      Watched.exists_writeEach_cut hlong
    rw [hcut, hwatched]
    exact ⟨rfl, rfl, Or.inr ⟨before, piece, after, hsplit, hbefore, hpiece, rfl, rfl⟩⟩
  · have hcut : cut = (⟨some (size - whole.length), .incomplete, whole⟩, none) :=
      hpieces ▸ Sink.writeAll_of_le (hpieces ▸ hfits)
    have hmin : min size whole.length = whole.length := Nat.min_eq_right hfits
    refine ⟨by rw [hcut, hmin, List.take_length], by simp [hcut, hfits], by simp [hcut, hfits],
      hpieces, ?_⟩
    intro pieces hflatten
    rw [← hflatten] at hfits hcut
    have hwatched : writeEach Watched.write { sink := .buffer size } pieces =
        (⟨⟨some (size - pieces.flatten.length), .incomplete, pieces.flatten⟩, pieces⟩, none) :=
      Watched.writeEach_fits hfits
    rw [hcut, hwatched]
    exact ⟨rfl, rfl, Or.inl ⟨rfl, rfl⟩⟩

/-- A report in the pieces of its lines, cut inside of a character. -/
theorem writeReport_buffer_halfCharacter :
    let config : Configuration := ⟨false, ⟨"./Lib"⟩, "é", true, ⟨"main.cw"⟩, {}⟩
    let pieces := ["shake tree flag: ", "false", "\n", "stdlib flag: ", "./Lib", "\n",
      "arch flag: ", "é", "\n", "emit_ir flag: ", "true", "\n",
      "source files flag: ", "main.cw", "\n"].map Utf8.encode
    let watched := writeEach Watched.write { sink := .buffer 54 } pieces
    (config.writeReport (.buffer 54)).2 = some .incomplete ∧
      (config.writeReport (.buffer 54)).1.held.getLast? = (Utf8.encode "é").head? ∧
      watched.1.sink = (config.writeReport (.buffer 54)).1 ∧
      watched.1.pieces = pieces.take 8 := by
  intro config pieces watched
  have hflatten : pieces.flatten = (config.writeReport .unlimited).1.held := by decide +kernel
  have hlong : 54 < (config.writeReport .unlimited).1.held.length := by decide +kernel
  obtain ⟨_, hcut, _, _, hpieces⟩ := writeReport_buffer config 54
  obtain ⟨hsink, _, _⟩ := hpieces pieces hflatten
  exact ⟨hcut.2 hlong, by decide +kernel, hsink, by decide +kernel⟩

end Configuration

end CompilerDriver
