import DevicetreeHeader.Proofs.Header.Collisions
import Mathlib.Data.List.Forall2

/-!
# What the options add to a header

The prefix stands in front of every name and the guard around the document. Neither enters into
anything else: the header of some nodes is the one without prefix and guard, decorated
(`ofNodes_eq_decorated`). A prefix keeps different names different, so that the collisions of a
decorated header are those of the bare one, each with the prefix in front (`collisions_decorated`).
A guard puts two lines behind the banner and two at the end of the document (`text_unguarded`,
`text_guarded`).

So two headers of the same nodes agree place by place up to their prefixes, and so do their
collisions (`options_decorate`).
-/

set_option autoImplicit false
set_option relaxedAutoImplicit false

namespace DevicetreeHeader

theorem forall₂_map_of_forall {α β γ : Type} {related : β → γ → Prop} {first : α → β}
    {second : α → γ} (hrelated : ∀ item, related (first item) (second item)) {items : List α} :
    List.Forall₂ related (items.map first) (items.map second) := by
  rw [List.forall₂_map_left_iff, List.forall₂_map_right_iff, List.forall₂_same]
  exact fun item _ ↦ hrelated item

namespace Definition

/-- The definition with a prefix in front of its name. -/
def prefixed (macroPrefix : Text) (definition : Definition) : Definition :=
  { definition with name := macroPrefix ++ definition.name }

theorem ofNode_eq_prefixed (options : Options) (node : Node) :
    ofNode options node = (ofNode ⟨[], none⟩ node).map (prefixed options.macroPrefix) := by
  rw [ofNode, ofNode, List.map_map]
  refine List.map_congr_left fun property _ ↦ ?_
  simp [prefixed]

end Definition

namespace Header

/-- The header of nodes without prefix and guard. -/
def bare (nodes : List Node) : Header :=
  ofNodes ⟨[], none⟩ nodes

/-- The header with a prefix in front of every name and with the guard of the options. -/
def decorated (options : Options) (header : Header) : Header where
  sections := header.sections.map fun part ↦
    ⟨part.type, part.definitions.map (Definition.prefixed options.macroPrefix)⟩
  guard := options.includeGuard

/-- Two names that are the same behind two prefixes. -/
def SameBehind (first second name other : Text) : Prop :=
  ∃ rest, name = first ++ rest ∧ other = second ++ rest

variable (options : Options)

/-! ### Decorated headers -/

theorem definitionsOf_eq_prefixed (nodes : List Node) (type : Text) :
    definitionsOf options nodes type =
      (definitionsOf ⟨[], none⟩ nodes type).map (Definition.prefixed options.macroPrefix) := by
  rw [definitionsOf, definitionsOf, List.map_flatMap]
  exact List.flatMap_congr fun node _ ↦ Definition.ofNode_eq_prefixed options node

theorem ofNodes_eq_decorated (nodes : List Node) :
    ofNodes options nodes = (bare nodes).decorated options := by
  have hsections : (ofNodes options nodes).sections =
      ((bare nodes).decorated options).sections := by
    rw [decorated, bare, sections_ofNodes, sections_ofNodes, List.map_map]
    refine List.map_congr_left fun type _ ↦ ?_
    rw [definitionsOf_eq_prefixed, Function.comp_apply]
  exact congrArg (Header.mk · options.includeGuard) hsections

/-- The guard does not enter into the sections. -/
theorem ofNodes_guard (macroPrefix : Text) (guard : Option Text) (nodes : List Node) :
    ofNodes ⟨macroPrefix, guard⟩ nodes = ⟨(ofNodes ⟨macroPrefix, none⟩ nodes).sections, guard⟩ := by
  rw [ofNodes_eq_decorated, ofNodes_eq_decorated ⟨macroPrefix, none⟩]
  rfl

theorem names_decorated (header : Header) :
    (header.decorated options).names = header.names.map (options.macroPrefix ++ ·) := by
  rw [names, names, decorated, List.flatMap_map, List.map_flatMap]
  refine List.flatMap_congr fun part _ ↦ ?_
  rw [List.map_map, List.map_map]
  rfl

/-- The collisions of a decorated header are those of the header with the prefix in front. -/
theorem collisions_decorated (header : Header) :
    (header.decorated options).collisions = header.collisions.map (options.macroPrefix ++ ·) := by
  have hinjective : Function.Injective (options.macroPrefix ++ · : Text → Text) :=
    List.append_right_injective options.macroPrefix
  rw [collisions_eq_filter, collisions_eq_filter, names_decorated, eraseDups_map hinjective,
    List.filter_map]
  congr 1
  refine List.filter_congr fun name _ ↦ ?_
  rw [Function.comp_apply, List.count_map_of_injective _ _ hinjective]

/-! ### Guarded documents -/

/-- What follows the banner in a document without a guard. -/
def unguardedRest (sections : List Section) : Text :=
  '\n' :: (sections.flatMap sectionPieces).flatten

theorem text_unguarded (sections : List Section) :
    (Header.mk sections none).text = banner ++ unguardedRest sections := by
  simp [text, pieces, unguardedRest]

theorem text_guarded (sections : List Section) (guard : Text) :
    (Header.mk sections (some guard)).text =
      banner ++ ("\n#ifndef ".toList ++ guard ++ "\n#define ".toList ++ guard) ++
        unguardedRest sections ++ ("\n#endif /* ".toList ++ guard ++ " */\n".toList) := by
  simp [text, pieces, unguardedRest]

/-- Whatever the options, the headers of the same nodes have the same types and values, and their
names and collisions are the same behind the prefixes, place by place. With a guard two lines come
behind the banner and two at the end, and the rest of the document is as it is without. -/
theorem options_decorate (nodes : List Node) (options others : Options) :
    List.Forall₂ (fun part other ↦ part.type = other.type ∧
        List.Forall₂ (fun definition renamed ↦
          SameBehind options.macroPrefix others.macroPrefix definition.name renamed.name ∧
            definition.value = renamed.value) part.definitions other.definitions)
      (ofNodes options nodes).sections (ofNodes others nodes).sections ∧
    List.Forall₂ (SameBehind options.macroPrefix others.macroPrefix)
      (ofNodes options nodes).collisions (ofNodes others nodes).collisions ∧
    ∃ rest, (ofNodes ⟨options.macroPrefix, none⟩ nodes).text = banner ++ rest ∧
      ∀ guard, (ofNodes ⟨options.macroPrefix, some guard⟩ nodes).text =
        banner ++ ("\n#ifndef ".toList ++ guard ++ "\n#define ".toList ++ guard) ++ rest ++
          ("\n#endif /* ".toList ++ guard ++ " */\n".toList) := by
  have hbehind (rest : Text) : SameBehind options.macroPrefix others.macroPrefix
      (options.macroPrefix ++ rest) (others.macroPrefix ++ rest) := ⟨rest, rfl, rfl⟩
  refine ⟨?_, ?_, ?_⟩
  · rw [ofNodes_eq_decorated options, ofNodes_eq_decorated others]
    refine forall₂_map_of_forall fun part ↦ ⟨rfl, ?_⟩
    exact forall₂_map_of_forall fun definition ↦ ⟨hbehind definition.name, rfl⟩
  · rw [ofNodes_eq_decorated options, ofNodes_eq_decorated others, collisions_decorated,
      collisions_decorated]
    exact forall₂_map_of_forall hbehind
  · refine ⟨unguardedRest (ofNodes ⟨options.macroPrefix, none⟩ nodes).sections, text_unguarded _,
      fun guard ↦ ?_⟩
    rw [ofNodes_guard]
    exact text_guarded _ guard

end Header

end DevicetreeHeader
