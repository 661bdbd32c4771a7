import HeaderBindings.Header.Comment
import HeaderBindings.Proofs.Text.Slice
import Mathlib.Data.List.Chain

/-!
# Block comments

A text with comments consists of characters that are shown and of comments
between them.  Removing the comments leaves what is shown, as long as no slash
has a star behind it there.
-/

namespace HeaderBindings.Header

/-! ## Removal -/

/-- A character of a text, or a comment in it. -/
inductive Chunk where
  | code (c : Char)
  | comment (content : List Char) (closed : ¬ ['*', '/'] <:+: content)

namespace Chunk

def text : Chunk → List Char
  | code c => [c]
  | comment content _ => '/' :: '*' :: (content ++ ['*', '/'])

/-- What is left of the chunk without comments. -/
def shown : Chunk → List Char
  | code c => [c]
  | comment _ _ => []

end Chunk

theorem dropBlockCommentsFrom_skip (skipped rest : List Char) :
    dropBlockCommentsFrom skipped.length (skipped ++ rest) = dropBlockCommentsFrom 0 rest := by
  induction skipped with
  | nil => rfl
  | cons c skipped ih => exact ih

/-- Where no comment starts in what is shown, the comments are what is removed. -/
theorem dropBlockCommentsFrom_chunks {chunks : List Chunk}
    (noStart : ¬ ['/', '*'] <:+: chunks.flatMap Chunk.shown) :
    dropBlockCommentsFrom 0 (chunks.flatMap Chunk.text) = chunks.flatMap Chunk.shown := by
  induction chunks with
  | nil => rfl
  | cons chunk chunks ih =>
      cases chunk with
      | code c =>
          have later : ¬ ['/', '*'] <:+: chunks.flatMap Chunk.shown := by
            intro inside
            exact noStart (List.infix_cons inside)
          have notHere : ¬ (c = '/' ∧ (chunks.flatMap Chunk.text).head? = some '*') := by
            rintro ⟨rfl, next⟩
            cases chunks with
            | nil => cases next
            | cons second chunks =>
                cases second with
                | comment content closed => exact absurd next (by simp [Chunk.text])
                | code d =>
                    obtain rfl : d = '*' := by simpa [Chunk.text] using next
                    exact noStart ⟨[], chunks.flatMap Chunk.shown, rfl⟩
          show dropBlockCommentsFrom 0 (c :: chunks.flatMap Chunk.text) =
            c :: chunks.flatMap Chunk.shown
          rw [dropBlockCommentsFrom, if_neg notHere, ih later]
      | comment content closed =>
          have split : (Chunk.comment content closed :: chunks).flatMap Chunk.text =
              '/' :: '*' :: (content ++ '*' :: '/' :: chunks.flatMap Chunk.text) := by
            simp [Chunk.text]
          have found : Text.cut? ['*', '/'] (content ++ '*' :: '/' :: chunks.flatMap Chunk.text) =
              some (content, chunks.flatMap Chunk.text) := Text.cut?_pair (by decide) closed
          have passed := dropBlockCommentsFrom_skip ('*' :: (content ++ ['*', '/']))
            (chunks.flatMap Chunk.text)
          have length : ('*' :: (content ++ ['*', '/'])).length = content.length + 3 := by simp
          rw [length, ih noStart] at passed
          rw [split, dropBlockCommentsFrom, if_pos ⟨rfl, rfl⟩, List.tail_cons, found]
          have regrouped : '*' :: (content ++ '*' :: '/' :: chunks.flatMap Chunk.text) =
              '*' :: (content ++ ['*', '/']) ++ chunks.flatMap Chunk.text := by simp
          dsimp only
          rw [regrouped]
          exact passed

/-! ## Texts in which no comment starts -/

/-- No slash has a star right behind it. -/
def Unstarted (text : List Char) : Prop :=
  text.IsChain fun c d => ¬ (c = '/' ∧ d = '*')

theorem unstarted_iff {text : List Char} : Unstarted text ↔ ¬ ['/', '*'] <:+: text := by
  rw [Unstarted]
  induction text with
  | nil => simp
  | cons c text ih =>
      cases text with
      | nil => simp [List.infix_cons_iff]
      | cons d text =>
          have first : ['/', '*'] <:+: c :: d :: text ↔
              ['/', '*'] <+: c :: d :: text ∨ ['/', '*'] <:+: d :: text := List.infix_cons_iff
          rw [List.isChain_cons_cons, ih, first, not_or, List.cons_prefix_cons,
            List.cons_prefix_cons]
          simp [eq_comm]

theorem Unstarted.append {text more : List Char} (first : Unstarted text) (second : Unstarted more)
    (apart : text.getLast? ≠ some '/' ∨ more.head? ≠ some '*') : Unstarted (text ++ more) := by
  rw [Unstarted, List.isChain_append]
  refine ⟨first, second, ?_⟩
  rintro c last d next ⟨rfl, rfl⟩
  exact apart.elim (fun notSlash => notSlash last) fun notStar => notStar next

/-- A text in which no comment starts, wherever it is put. -/
structure Solid (text : List Char) : Prop where
  unstarted : Unstarted text
  noStar : text.head? ≠ some '*'

theorem Solid.append {text more : List Char} (first : Solid text) (second : Solid more) :
    Solid (text ++ more) := by
  refine ⟨first.unstarted.append second.unstarted (.inr second.noStar), ?_⟩
  cases text with
  | nil => exact second.noStar
  | cons c text => exact first.noStar

theorem Solid.intercalate {separator : List Char} {pieces : List (List Char)}
    (between : Solid separator) (each : ∀ piece ∈ pieces, Solid piece) :
    Solid (separator.intercalate pieces) := by
  induction pieces with
  | nil => exact ⟨List.isChain_nil, by simp⟩
  | cons first rest ih =>
      rcases List.forall_mem_cons.mp each with ⟨isFirst, isRest⟩
      cases rest with
      | nil => simpa using isFirst
      | cons second rest =>
          rw [List.intercalate_cons_cons]
          exact (isFirst.append between).append (ih isRest)

theorem unstarted_plain {text : List Char} (noSlash : '/' ∉ text) : Unstarted text := by
  rw [unstarted_iff]
  rintro ⟨before, after, split⟩
  exact noSlash (by simp [← split])

theorem solid_plain {text : List Char} (noSlash : '/' ∉ text) (noStar : '*' ∉ text) :
    Solid text where
  unstarted := unstarted_plain noSlash
  noStar := fun star => noStar (List.mem_of_head? star)

end HeaderBindings.Header
