import FlowCanvas.Proofs.Json.Values
import FlowCanvas.Proofs.Keyed.Lists
import Mathlib

/-!
# Depths of documents

A reader refuses text that nests too deeply, so whatever has been read nests no more deeply than is
allowed (`Document.depth_le_of_parse?`). The invariant is that what has been read of an array or an
object fits below the number of those that are open around it (`Reader.Fits`). The document of a
value that has been read nests no more deeply than the one that it has been read from.
-/

set_option autoImplicit false

namespace FlowCanvas.Json

namespace Document

variable {k : Nat}

/-- Items are as deep as the deepest of them. -/
theorem itemDepth_le_iff {items : List Document} :
    itemDepth items ≤ k ↔ ∀ item ∈ items, item.depth ≤ k := by
  induction items with
  | nil => simp [itemDepth]
  | cons item rest ih => simp [itemDepth, ih]

/-- Fields are as deep as the deepest of their values. -/
theorem fieldDepth_le_iff {fields : List (String × Document)} :
    fieldDepth fields ≤ k ↔ ∀ field ∈ fields, field.2.depth ≤ k := by
  induction fields with
  | nil => simp [fieldDepth]
  | cons field rest ih => simp [fieldDepth, ih]

/-- An array is one level deeper than its items. -/
@[simp] theorem depth_array_le_iff {items : List Document} :
    (Document.array items).depth ≤ k + 1 ↔ ∀ item ∈ items, item.depth ≤ k := by
  rw [depth, Nat.add_le_add_iff_right, itemDepth_le_iff]

/-- An object is one level deeper than the values of its fields. -/
@[simp] theorem depth_object_le_iff {fields : List (String × Document)} :
    (Document.object fields).depth ≤ k + 1 ↔ ∀ field ∈ fields, field.2.depth ≤ k := by
  rw [depth, Nat.add_le_add_iff_right, fieldDepth_le_iff]

end Document

namespace Reader

/-- What has been read of an open array or object. -/
def Frame.contents : Frame → List Document
  | .array before => before
  | .object before _ => before.map Prod.snd

/-- Whether open arrays and objects, the innermost first, are not too many, and what has been read
of each of them fits below those around it. -/
def FramesFit : List Frame → Prop
  | [] => True
  | frame :: rest =>
    (∀ d ∈ frame.contents, d.depth + (rest.length + 1) ≤ maxDepth) ∧
      rest.length + 1 ≤ maxDepth ∧ FramesFit rest

/-- Whether everything that has been read fits. -/
def Fits : Reader → Prop
  | .expectValue frames => FramesFit frames
  | .arrayStart frames | .objectStart frames => frames.length + 1 ≤ maxDepth ∧ FramesFit frames
  | .expectKey frames before | .expectColon frames before _ =>
    FramesFit (.object before none :: frames)
  | .done frames value => value.depth + frames.length ≤ maxDepth ∧ FramesFit frames

variable {frames : List Frame} {r r' : Reader} {token : Token} {value : Document}

/-- No more arrays and objects are open than may be. -/
theorem FramesFit.length_le (h : FramesFit frames) : frames.length ≤ maxDepth := by
  cases frames with
  | nil => exact Nat.zero_le _
  | cons frame rest => exact h.2.1

/-- Frames in which the same has been read fit alike. -/
theorem FramesFit.congr {frame frame' : Frame} (h : FramesFit (frame :: frames))
    (hContents : frame'.contents = frame.contents) : FramesFit (frame' :: frames) :=
  ⟨hContents ▸ h.1, h.2⟩

/-- Nothing has been read of an array or object that has just been opened. -/
theorem FramesFit.opened {frame : Frame} (h : frames.length + 1 ≤ maxDepth ∧ FramesFit frames)
    (hEmpty : frame.contents = []) : FramesFit (frame :: frames) :=
  ⟨by simp [hEmpty], h⟩

/-- An array or object takes one more value. -/
theorem FramesFit.push {frame frame' : Frame} (h : FramesFit (frame :: frames))
    (hValue : value.depth + (frame :: frames).length ≤ maxDepth)
    (hContents : frame'.contents = value :: frame.contents) : FramesFit (frame' :: frames) := by
  refine ⟨?_, h.2⟩
  rw [hContents]
  exact List.forall_mem_cons.2 ⟨hValue, h.1⟩

/-- An array or object that is closed fits where it stands. -/
theorem FramesFit.closed {frame : Frame} (h : FramesFit (frame :: frames))
    (hDepth : ∀ k, (∀ d ∈ frame.contents, d.depth ≤ k) → value.depth ≤ k + 1) :
    value.depth + frames.length ≤ maxDepth ∧ FramesFit frames := by
  refine ⟨?_, h.2.2⟩
  have hOpen := h.2.1
  have hValue := hDepth (maxDepth - (frames.length + 1)) fun d hd => by
    have hd' := h.1 d hd
    omega
  omega

/-- An object is one level deeper than the values that have been read for it. -/
theorem depth_objectOf_le {fields : List (Option String × Document)} {k : Nat}
    (h : ∀ d ∈ fields.map Prod.snd, d.depth ≤ k) : (objectOf fields).depth ≤ k + 1 := by
  unfold objectOf
  split
  · rename_i read hRead
    rw [Document.depth_object_le_iff]
    intro field hField
    obtain ⟨source, hSource, hSome⟩ :=
      Lists.exists_of_forall₂_right (Lists.mapM_eq_some_iff.1 hRead) hField
    obtain ⟨key, -, rfl⟩ := Option.map_eq_some_iff.1 hSome
    exact h _ (List.mem_map_of_mem hSource)
  · exact Nat.zero_le _

/-! ## Reading -/

/-- What has been read still fits after the start of a value. -/
theorem Fits.start? (h : FramesFit frames) (hStart : start? frames token = some r) : r.Fits := by
  have hLength := h.length_le
  unfold Reader.start? at hStart
  split at hStart
  case h_6 | h_7 =>
    split at hStart
    · cases hStart
      exact ⟨‹frames.length < maxDepth›, h⟩
    · cases hStart
  case h_8 => cases hStart
  all_goals
    cases hStart
    exact ⟨le_of_eq_of_le (Nat.zero_add _) hLength, h⟩

/-- What has been read still fits after the end of a value. -/
theorem Fits.continue? (h : value.depth + frames.length ≤ maxDepth ∧ FramesFit frames)
    (hContinue : continue? value frames token = some r) : r.Fits := by
  obtain ⟨hValue, hFrames⟩ := h
  unfold Reader.continue? at hContinue
  split at hContinue
  · cases hContinue
    exact hFrames.push hValue rfl
  · rename_i before frames
    cases hContinue
    have hPushed : FramesFit (.array (value :: before) :: frames) := hFrames.push hValue rfl
    refine hPushed.closed fun k hk => Document.depth_array_le_iff.2 fun d hd => hk d ?_
    exact List.mem_reverse.1 hd
  · cases hContinue
    exact hFrames.push hValue rfl
  · rename_i before key frames
    cases hContinue
    have hPushed : FramesFit (.object ((key, value) :: before) none :: frames) :=
      hFrames.push hValue rfl
    refine hPushed.closed fun k hk => depth_objectOf_le fun d hd => hk d ?_
    rwa [List.map_reverse, List.mem_reverse] at hd
  · cases hContinue

/-- Each token keeps what has been read within bounds. -/
theorem Fits.feed? (h : r.Fits) (hFeed : feed? r token = some r') : r'.Fits := by
  unfold Reader.feed? at hFeed
  split at hFeed
  · exact Fits.start? h hFeed
  · cases hFeed
    exact ⟨by simpa [Document.depth, Document.itemDepth, Nat.add_comm] using h.1, h.2⟩
  · exact Fits.start? (.opened h rfl) hFeed
  · cases hFeed
    exact ⟨by simpa [Document.depth, Document.fieldDepth, Nat.add_comm] using h.1, h.2⟩
  · cases hFeed
    exact .opened h rfl
  · cases hFeed
    exact .opened h rfl
  · cases hFeed
    exact h
  · cases hFeed
    exact h
  · cases hFeed
    exact h.congr rfl
  · exact Fits.continue? h hFeed
  · cases hFeed

/-- What has been read still fits after any number of tokens. -/
theorem Fits.foldlM {tokens : List Token} (h : r.Fits)
    (hRead : tokens.foldlM Reader.feed? r = some r') : r'.Fits := by
  induction tokens generalizing r with
  | nil =>
    cases hRead
    exact h
  | cons token rest ih =>
    rw [List.foldlM_cons] at hRead
    obtain ⟨next, hFeed, hRest⟩ := Option.bind_eq_some_iff.1 hRead
    exact ih (h.feed? hFeed) hRest

end Reader

/-- What has been read nests no more deeply than is allowed. -/
theorem Document.depth_le_of_parse? {text : String} {d : Document}
    (h : Document.parse? text = some d) : d.depth ≤ maxDepth := by
  obtain ⟨tokens, -, hTokens⟩ := Option.bind_eq_some_iff.1 h
  obtain ⟨r, hRead, hResult⟩ := Option.bind_eq_some_iff.1 hTokens
  have hStart : Reader.Fits (.expectValue []) := trivial
  have hFits := hStart.foldlM hRead
  unfold Reader.result? at hResult
  split at hResult
  · cases hResult
    exact hFits.1
  · cases hResult

end FlowCanvas.Json
