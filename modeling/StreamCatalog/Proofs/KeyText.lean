import Mathlib.Data.List.Basic
import StreamCatalog.Proofs.Footprint
import StreamCatalog.Proofs.Names
import StreamCatalog.Proofs.WellFormed

namespace StreamCatalog

def splitAtSlash : List Char → Option (List Char × List Char)
  | [] => none
  | c :: rest =>
    if c = '/' then some ([], rest)
    else (splitAtSlash rest).map fun (before, after) => (c :: before, after)

theorem splitAtSlash_append {before : List Char} (slashless : '/' ∉ before) (after : List Char) :
    splitAtSlash (before ++ '/' :: after) = some (before, after) := by
  induction before with
  | nil => rfl
  | cons c rest ih =>
    have ⟨here, later⟩ := List.ne_and_not_mem_of_not_mem_cons slashless
    rw [List.cons_append, splitAtSlash, if_neg (Ne.symm here), ih later]
    rfl

def afterStart? (start text : String) : Option String :=
  (start.toList.isPrefixOf? text.toList).map String.ofList

theorem afterStart?_append (start rest : String) :
    afterStart? start (start ++ rest) = some rest := by
  have found : start.toList.isPrefixOf? (start ++ rest).toList = some rest.toList := by
    rw [List.isPrefixOf?_eq_some_iff_append_eq, String.toList_append]
  rw [afterStart?, found, Option.map_some, String.ofList_toList]

theorem afterStart?_scope_stream (rest : String) :
    afterStart? "scope:" ("stream:" ++ rest) = none := by
  have starts : ("stream:" ++ rest).toList = 's' :: 't' :: ("ream:".toList ++ rest.toList) := by
    rw [String.toList_append]
    rfl
  rw [afterStart?, starts]
  rfl

namespace StreamId

def ofText? (text : String) : Option StreamId :=
  (splitAtSlash text.toList).map fun (scope, name) => ⟨String.ofList scope, String.ofList name⟩

theorem ofText?_display {id : StreamId} (slashless : '/' ∉ id.scope.toList) :
    ofText? id.display = some id := by
  have text : id.display.toList = id.scope.toList ++ '/' :: id.name.toList := by
    simp only [display, String.toList_append, List.append_assoc]
    rfl
  rw [ofText?, text, splitAtSlash_append slashless, Option.map_some]
  simp only [String.ofList_toList]

end StreamId

namespace Key

def ofText? (text : String) : Option Key :=
  match afterStart? "scope:" text with
  | some name => some (.scope name)
  | none => ((afterStart? "stream:" text).bind StreamId.ofText?).map .stream

theorem ofText?_scope (name : String) : ofText? (Key.scope name).display = some (.scope name) := by
  rw [ofText?, display, afterStart?_append]

theorem ofText?_stream {id : StreamId} (slashless : '/' ∉ id.scope.toList) :
    ofText? (Key.stream id).display = some (.stream id) := by
  rw [ofText?, display, afterStart?_scope_stream, afterStart?_append, Option.bind_some,
    StreamId.ofText?_display slashless, Option.map_some]

/-- Whether the name of the scope is one that some controller accepts. -/
def Addressable (key : Key) : Prop := ∃ limit, Fits limit key.owner

theorem Addressable.slashless {key : Key} (addressable : key.Addressable) :
    '/' ∉ key.owner.toList := by
  obtain ⟨limit, fits⟩ := addressable
  obtain ⟨-, -, alphabet⟩ := (checkName_ok_iff limit key.owner).mp fits
  intro member
  have allowed := alphabet '/' member
  have foreign : ¬ InNameAlphabet '/' := by
    unfold InNameAlphabet
    decide
  exact foreign allowed

theorem Addressable.ofText?_display {key : Key} (addressable : key.Addressable) :
    ofText? key.display = some key := by
  cases key with
  | scope name => exact ofText?_scope name
  | stream id => exact ofText?_stream addressable.slashless

theorem display_inj {key other : Key} (read : ofText? key.display = some key)
    (addressable : other.Addressable) (same : other.display = key.display) : other = key := by
  have text := addressable.ofText?_display
  rw [same, read] at text
  exact (Option.some.inj text).symm

end Key

/-- Where the name of a scope could hold a slash, two streams would share a text. -/
example : StreamId.display ⟨"a/b", "c"⟩ = StreamId.display ⟨"a", "b/c"⟩ := by rfl

end StreamCatalog
