import EntitySurface.Proofs.Emission.Contents
import Mathlib.Data.List.Infix

/-!
# The functions of a module

A stub module begins the definition of a function for every operation and every hook chain of its
entity. What has been written to a module stays in it, so all these definitions are in its file.
-/

namespace EntitySurface

namespace Text

variable {part : List Char} {text : String}

theorem infix_append_left (within : part <:+: text.toList) (more : String) :
    part <:+: (text ++ more).toList := by
  rw [String.toList_append]
  exact within.trans (List.prefix_append _ _).isInfix

theorem infix_append_right (within : part <:+: text.toList) (more : String) :
    part <:+: (more ++ text).toList := by
  rw [String.toList_append]
  exact within.trans (List.suffix_append _ _).isInfix

end Text

open Text

theorem Layout.infix_line {part : List Char} {text : String} (within : part <:+: text.toList)
    (layout : Layout) : part <:+: (layout.line text).toList := by
  unfold line
  split
  · next empty =>
    rw [String.isEmpty_iff.mp empty] at within
    exact infix_append_left within "\n"
  · exact infix_append_left (infix_append_right within layout.indent) "\n"

namespace Stub

/-- How the definition of a function begins. -/
def opening (function : String) : String :=
  "pub fn " ++ function ++ "("

theorem opening_infix_line (function rest : String) (layout : Layout) :
    (opening function).toList <:+: (layout.line (opening function ++ rest)).toList :=
  Layout.infix_line (infix_append_left (List.infix_refl _) rest) layout

/-- The stub of an operation defines a function. -/
theorem opening_infix_operationText (docs : Bool) (operation : Operation) :
    (opening (snakeCase operation.name)).toList <:+: (operationText docs operation).toList := by
  unfold operationText
  refine infix_append_left (infix_append_left (infix_append_right ?_ _) _) _
  simpa only [opening, String.append_assoc] using
    opening_infix_line (snakeCase operation.name) _ outer

/-- The text of a chain defines a function. -/
theorem opening_infix_chainText (docs : Bool) (chain : HookChain) :
    (opening (chainFunction chain)).toList <:+: (chainText docs chain).toList := by
  unfold chainText
  refine infix_append_left (infix_append_left (infix_append_left (infix_append_right ?_ _) _) _) _
  simpa only [opening, String.append_assoc] using opening_infix_line (chainFunction chain) _ outer

namespace Module

variable {part : List Char} {module' : Module}

/-- Something written to a module. -/
def Has (module' : Module) (part : List Char) : Prop :=
  part <:+: module'.operations.toList ∨ part <:+: module'.blocks.toList

/-- What is written to a module stays in it. -/
theorem Has.foldl_after (has : module'.Has part) (docs : Bool) (calls : List EmitterCall) :
    (calls.foldl (after docs) module').Has part := by
  induction calls generalizing module' with
  | nil => exact has
  | cons call rest ih =>
      refine ih ?_
      cases call with
      | operation operation => exact has.imp_left (infix_append_left · _)
      | page page => exact has.imp_right (infix_append_left · _)
      | block block =>
          exact has.imp_right fun within => infix_append_left (infix_append_left within _) _
      | beginEntity | endEntity => exact has

/-- A call writes its text to the module. -/
theorem has_foldl_after_of_mem {call : EmitterCall} {calls : List EmitterCall} (docs : Bool)
    (writes : ∀ module' : Module, (module'.after docs call).Has part) (mem : call ∈ calls) :
    (calls.foldl (after docs) module').Has part := by
  induction calls generalizing module' with
  | nil => contradiction
  | cons first rest ih =>
      rcases List.mem_cons.mp mem with rfl | later
      · exact (writes module').foldl_after docs rest
      · exact ih later

theorem Has.infix_file (has : module'.Has part) : part <:+: module'.file.content.toList := by
  unfold file
  rcases has with within | within
  · exact infix_append_left (infix_append_right within _) _
  · exact infix_append_right within _

end Module

end Stub

namespace DerivedEntity

variable {item : DerivedEntity}

/-- The names of the functions in the stub module, in order. -/
def functions (item : DerivedEntity) : List String :=
  (item.surface.operations.map fun operation => snakeCase operation.name) ++
    item.chains.map Stub.chainFunction

/-- All functions are defined in the file. -/
theorem opening_infix_file {function : String} (mem : function ∈ item.functions) (docs : Bool) :
    (Stub.opening function).toList <:+: (item.stubModule docs).file.content.toList := by
  apply Stub.Module.Has.infix_file
  rcases List.mem_append.mp mem with ofOperation | ofChain
  · obtain ⟨operation, among, rfl⟩ := List.mem_map.mp ofOperation
    have called : .operation operation ∈ item.contents := by simp [contents, among]
    refine Stub.Module.has_foldl_after_of_mem docs (fun module' => Or.inl ?_) called
    exact infix_append_right (Stub.opening_infix_operationText docs operation) _
  · obtain ⟨chain, among, rfl⟩ := List.mem_map.mp ofChain
    have called : .block (.hookChain chain) ∈ item.contents := by simp [contents, among]
    refine Stub.Module.has_foldl_after_of_mem docs (fun module' => Or.inr ?_) called
    exact infix_append_right (Stub.opening_infix_chainText docs chain) _

end DerivedEntity

end EntitySurface
