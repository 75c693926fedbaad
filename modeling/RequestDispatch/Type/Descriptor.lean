import RequestDispatch.Type.Key

/-!
Type descriptors: a key together with the shape of the values that carry it.
-/

namespace RequestDispatch

inductive Primitive where
  | bool | char
  | int8 | int16 | int32 | int64
  | uint8 | uint16 | uint32 | uint64
  | single | double
  deriving DecidableEq, Repr

namespace Primitive

/-- Every primitive, in the order in which their converters are registered. -/
def all : List Primitive :=
  [.bool, .char, .int8, .int16, .int32, .int64, .uint8, .uint16, .uint32, .uint64, .single,
    .double]

def key : Primitive → TypeKey
  | .bool => ⟨"bool"⟩
  | .char => ⟨"char"⟩
  | .int8 => ⟨"i8"⟩
  | .int16 => ⟨"i16"⟩
  | .int32 => ⟨"i32"⟩
  | .int64 => ⟨"i64"⟩
  | .uint8 => ⟨"u8"⟩
  | .uint16 => ⟨"u16"⟩
  | .uint32 => ⟨"u32"⟩
  | .uint64 => ⟨"u64"⟩
  | .single => ⟨"f32"⟩
  | .double => ⟨"f64"⟩

def boxedKey (primitive : Primitive) : TypeKey :=
  ⟨"core::option::Option<" ++ primitive.key.name ++ ">"⟩

def ofName? (name : String) : Option Primitive :=
  all.find? fun primitive => primitive.key.name == name

def isNumeric (primitive : Primitive) : Bool := primitive ≠ .bool && primitive ≠ .char

def isFloating (primitive : Primitive) : Bool := primitive = .single || primitive = .double

def range? : Primitive → Option (Int × Int)
  | .int8 => some (-0x80, 0x7F)
  | .int16 => some (-0x8000, 0x7FFF)
  | .int32 => some (-0x80000000, 0x7FFFFFFF)
  | .int64 => some (-0x8000000000000000, 0x7FFFFFFFFFFFFFFF)
  | .uint8 => some (0, 0xFF)
  | .uint16 => some (0, 0xFFFF)
  | .uint32 => some (0, 0xFFFFFFFF)
  | .uint64 => some (0, 0xFFFFFFFFFFFFFFFF)
  | _ => none

end Primitive

/-- Kinds of collections. The first six are abstract: a value is built as their nearest concrete
kind. A custom kind is built by an adapter. -/
inductive CollectionKind where
  | collection | list | set | sortedSet | queue | deque
  | arrayList | linkedList | hashSet | linkedHashSet | treeSet | arrayDeque
  | custom (key : TypeKey)
  deriving DecidableEq, Repr

namespace CollectionKind

def isAbstract : CollectionKind → Bool
  | .collection | .list | .set | .sortedSet | .queue | .deque => true
  | _ => false

def concrete : CollectionKind → CollectionKind
  | .collection | .list => .arrayList
  | .set => .hashSet
  | .sortedSet => .treeSet
  | .queue | .deque => .arrayDeque
  | kind => kind

def isUnique (kind : CollectionKind) : Bool :=
  match kind.concrete with
  | .hashSet | .linkedHashSet | .treeSet => true
  | _ => false

def isSorted (kind : CollectionKind) : Bool :=
  match kind.concrete with
  | .treeSet => true
  | _ => false

def name : CollectionKind → String
  | .collection => "Collection"
  | .list => "List"
  | .set => "Set"
  | .sortedSet => "SortedSet"
  | .queue => "Queue"
  | .deque => "Deque"
  | .arrayList => "ArrayList"
  | .linkedList => "LinkedList"
  | .hashSet => "HashSet"
  | .linkedHashSet => "LinkedHashSet"
  | .treeSet => "TreeSet"
  | .arrayDeque => "ArrayDeque"
  | .custom key => key.name

def standard : List CollectionKind :=
  [.collection, .list, .set, .sortedSet, .queue, .deque, .arrayList, .linkedList, .hashSet,
    .linkedHashSet, .treeSet, .arrayDeque]

def ofName? (name : String) : Option CollectionKind := standard.find? fun kind => kind.name == name

theorem concrete_concrete (kind : CollectionKind) : kind.concrete.concrete = kind.concrete := by
  cases kind <;> rfl

end CollectionKind

mutual

inductive TypeDescriptor where
  | describe (key : TypeKey) (kind : TypeKind)

inductive TypeKind where
  | primitive (primitive : Primitive)
  | boxed (primitive : Primitive)
  | text
  | enumeration (variants : List String)
  | array (element : TypeDescriptor)
  | collection (kind : CollectionKind) (element : TypeDescriptor)
  | map (key value : TypeDescriptor)
  | object

end

deriving instance DecidableEq for TypeDescriptor, TypeKind

namespace TypeDescriptor

def key : TypeDescriptor → TypeKey
  | .describe key _ => key

def kind : TypeDescriptor → TypeKind
  | .describe _ kind => kind

def primitive (primitive : Primitive) : TypeDescriptor :=
  .describe primitive.key (.primitive primitive)

def boxed (primitive : Primitive) : TypeDescriptor :=
  .describe primitive.boxedKey (.boxed primitive)

def text : TypeDescriptor := .describe .text .text

instance : Inhabited TypeDescriptor := ⟨.text⟩

def enumeration (key : TypeKey) (variants : List String) : TypeDescriptor :=
  .describe key (.enumeration variants)

def arrayOf (element : TypeDescriptor) : TypeDescriptor :=
  .describe ⟨"[" ++ element.key.name ++ "]"⟩ (.array element)

def collectionOf (kind : CollectionKind) (element : TypeDescriptor) : TypeDescriptor :=
  .describe ⟨kind.name ++ "<" ++ element.key.name ++ ">"⟩ (.collection kind element)

def mapOf (key value : TypeDescriptor) : TypeDescriptor :=
  .describe ⟨"Map<" ++ key.key.name ++ ", " ++ value.key.name ++ ">"⟩ (.map key value)

def object (key : TypeKey) : TypeDescriptor := .describe key .object

def withKey (descriptor : TypeDescriptor) (key : TypeKey) : TypeDescriptor :=
  .describe key descriptor.kind

def isPrimitive (descriptor : TypeDescriptor) : Bool :=
  match descriptor.kind with
  | .primitive _ => true
  | _ => false

def isArray (descriptor : TypeDescriptor) : Bool :=
  match descriptor.kind with
  | .array _ => true
  | _ => false

def isCollection (descriptor : TypeDescriptor) : Bool :=
  match descriptor.kind with
  | .collection _ _ => true
  | _ => false

def isMap (descriptor : TypeDescriptor) : Bool :=
  match descriptor.kind with
  | .map _ _ => true
  | _ => false

def element? (descriptor : TypeDescriptor) : Option TypeDescriptor :=
  match descriptor.kind with
  | .array element => some element
  | .collection _ element => some element
  | _ => none

def impliedParents (descriptor : TypeDescriptor) : List TypeKey :=
  match descriptor.kind with
  | .boxed primitive => if primitive.isNumeric then [.number] else []
  | .text => [.characters]
  | .enumeration _ => [.enumeration]
  | _ => []

end TypeDescriptor
end RequestDispatch
