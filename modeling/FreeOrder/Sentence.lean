import FreeOrder.Span
import FreeOrder.Term

namespace FreeOrder

/-- A sentence is one term, or a list of terms in any order. -/
inductive Sentence
  | single (term : Term)
  | many (terms : List Term)
deriving DecidableEq, Repr

namespace Sentence

/-- The sentence of the terms, single exactly when there is one of them. -/
def ofTerms : List Term → Sentence
  | [term] => single term
  | terms => many terms

/-- The terms of the sentence, in the order in which they stand. -/
def terms : Sentence → List Term
  | single term => [term]
  | many terms => terms

def single? : Sentence → Option Term
  | single term => some term
  | many _ => none

def length (sentence : Sentence) : Nat :=
  sentence.terms.length

def isEmpty (sentence : Sentence) : Bool :=
  sentence.terms.isEmpty

@[simp]
theorem terms_ofTerms (terms : List Term) : (ofTerms terms).terms = terms := by
  unfold ofTerms
  split <;> rfl

end Sentence

end FreeOrder
