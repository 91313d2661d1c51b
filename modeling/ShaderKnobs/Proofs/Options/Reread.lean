import ShaderKnobs.Options
import ShaderKnobs.Proofs.Json.Image

set_option autoImplicit false

namespace ShaderKnobs

namespace Options

open Json (Occurs Within maxDepth)
open Piece (spelled)
open Raw (ReadAs json? keyed?)

def nullable {α : Type} (write : α → Document × Raw) : Option α → Document × Raw
  | none => (Json.null.document, .null)
  | some value => write value

def textParts (value : String) : Document × Raw := (.text value, .text (spelled value))

def timeParts (name : String) : Document × Raw :=
  (.object [("name", .text name)], .object [(spelled "name", .text (spelled name))])

def namesParts (names : List String) : Document × Raw :=
  (.array (names.map .text), .array (names.map fun name => .text (spelled name)))

def fieldParts (o : Options) : List (String × Document × Raw) :=
  [("vertexShader", nullable textParts o.vertex), ("fragmentShader", nullable textParts o.fragment),
    ("timeUniform", nullable timeParts o.timeUniform), ("uniforms", nullable namesParts o.uniforms)]

theorem nullable_read {α : Type} (write : α → Document × Raw)
    (each : ∀ value, ReadAs (write value).1.compactChars (write value).2) (own : Option α) :
    ReadAs (nullable write own).1.compactChars (nullable write own).2 := by
  cases own with
  | none => exact Raw.scalar_read _ _ fun _ _ => rfl
  | some value => exact each value

theorem time_read (name : String) : ReadAs (timeParts name).1.compactChars (timeParts name).2 :=
  Raw.object_read [("name", textParts name)] (List.forall_mem_singleton.mpr (Raw.quoted_read name))

theorem names_read (names : List String) : ReadAs (namesParts names).1.compactChars (namesParts names).2 := by
  have read := Raw.array_read (names.map textParts) (List.forall_mem_map.mpr fun name _ => Raw.quoted_read name)
  rwa [List.map_map, List.map_map] at read

theorem field_parts_read (o : Options) (part : String × Document × Raw) (member : part ∈ o.fieldParts) :
    ReadAs part.2.1.compactChars part.2.2 := by
  simp only [fieldParts, List.mem_cons, List.not_mem_nil, or_false] at member
  rcases member with rfl | rfl | rfl | rfl
  · exact nullable_read textParts Raw.quoted_read o.vertex
  · exact nullable_read textParts Raw.quoted_read o.fragment
  · exact nullable_read timeParts time_read o.timeUniform
  · exact nullable_read namesParts names_read o.uniforms

def fieldEntries (o : Options) : List (String × Raw) := o.fieldParts.map fun part => (part.1, part.2.2)

-- Material that a reader can make: rising keys, and values with room for the object around them.
structure Sound (material : Fields) : Prop where
  rising : Fields.Rising material
  within : ∀ field ∈ material, Within (maxDepth - 1) field.2

-- The real numbers of the material are read back from their own texts.
def Kept (real : RealReader) (o : Options) : Prop := ∀ field ∈ o.material, ∀ x, Occurs x field.2 → real.Keeps x

theorem entries_read (o : Options) (sound : Sound o.material) :
    ∃ raw : Json → Raw, (∃ raws, Raw.read? o.document.compact = some (.object raws) ∧
        keyed? raws = some (o.fieldEntries ++ o.material.map fun field => (field.1, raw field.2))) ∧
      ∀ field ∈ o.material, Json.ReadBack (maxDepth - 1) field.2 (raw field.2) := by
  have some_ : Nonempty Raw := ⟨.null⟩
  choose! raw back using Json.within_read (maxDepth - 1)
  let parts := o.fieldParts ++ o.material.map fun field => (field.1, field.2.document, raw field.2)
  have document : o.document = .object (parts.map fun part => (part.1, part.2.1)) := by
    rw [Options.document, Json.field_documents_map, List.map_append, List.map_map]
    refine congrArg (fun fields => Document.object (fields ++ _)) ?_
    simp only [fieldParts, List.map_cons, List.map_nil, List.cons.injEq, Prod.mk.injEq, true_and, and_true]
    refine ⟨?_, ?_, ?_, ?_⟩
    · cases o.vertex <;> rfl
    · cases o.fragment <;> rfl
    · cases o.timeUniform <;> rfl
    · cases o.uniforms <;> rfl
  have reads : ∀ part ∈ parts, ReadAs part.2.1.compactChars part.2.2 := by
    refine List.forall_mem_append.mpr ⟨o.field_parts_read, List.forall_mem_map.mpr fun field member => ?_⟩
    exact (back field.2 (sound.within field member)).text
  refine ⟨raw, ⟨parts.map fun part => (spelled part.1, part.2.2), ?_, ?_⟩,
    fun field member => back field.2 (sound.within field member)⟩
  · rw [document]
    exact Raw.read_compact _ _ (Raw.object_read parts reads)
  · rw [Raw.keyed_spelled fun value : Document × Raw => value.2, List.map_append, List.map_map]
    rfl

section

variable (o : Options) (sound : Sound o.material) (real : RealReader)

include sound

end

end Options

end ShaderKnobs
