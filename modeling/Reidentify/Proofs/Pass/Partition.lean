import Reidentify.Artifact.Document
import Reidentify.Proofs.Pass.Resolution

/-!
# The members of a class, divided by scopes

Every field of a class belongs to the class or to its instances. A method is a constructor, the
initializer of the class, or one that belongs to the class or to the instances. So the scopes that
look into a class should share out its members: no member is looked for in two of them, and only
the initializer in none.

With a constructor that is marked as static they do not: it is one of the constructors by its name,
and among the methods of the class by its mark.

## Main definitions

* `Divides`: lists that share out the items of a list, in order.
* `MethodRole`: what a method is in its class.
* `SharesOut`: the candidates of the scopes into a class are its members, divided.

## Main statements

* `divides_fibers`: a list is divided by what its items are.
* `ClassDecl.divides_methods_iff`: the methods are divided iff no constructor is static.
* `Scope.sharesOut_candidates`: the scopes into a class share out its members.
* `Scope.exists_static_constructor`: a constructor that is a candidate among the static methods.
-/

namespace Reidentify

section Division

variable {α ρ : Type} {items : List α}

/-- The `parts` share out the `items`: every part keeps the order of the items, all parts together
have all items, each as often as it is there, and no item is in two parts. -/
structure Divides (items : List α) (parts : List (List α)) : Prop where
  /-- Every part is a sublist of the `items`, so it keeps their order. -/
  ordered : ∀ part ∈ parts, part.Sublist items
  /-- The parts one after the other are a permutation of the `items`. -/
  complete : parts.flatten.Perm items
  /-- No item is in two of the `parts`. -/
  disjoint : parts.Pairwise List.Disjoint

variable [DecidableEq ρ]

/-- The items with some `role`, put together role by role, are a permutation of the items, if
`roles` has the role of every item and none twice. -/
theorem flatten_fibers_perm (role : α → ρ) {roles : List ρ} (hnodup : roles.Nodup)
    (hcovers : ∀ item ∈ items, role item ∈ roles) :
    (roles.map fun r => items.filter (role · = r)).flatten.Perm items := by
  -- by induction on the roles: the items of the first one are split off by `filter_append_perm`
  induction roles generalizing items with
  | nil =>
    rw [List.eq_nil_iff_forall_not_mem.2 fun item hmem => List.not_mem_nil (hcovers item hmem)]
    exact .nil
  | cons r rest ih =>
    obtain ⟨hfirst, hrest⟩ := List.nodup_cons.1 hnodup
    -- the items with another role have one of the others
    have hothers : ∀ item ∈ items.filter (role · ≠ r), role item ∈ rest := by
      intro item hmem
      rw [List.mem_filter, decide_eq_true_iff] at hmem
      exact List.mem_of_ne_of_mem hmem.2 (hcovers item hmem.1)
    have hfibers : ∀ r' ∈ rest, (items.filter (role · ≠ r)).filter (role · = r') =
        items.filter (role · = r') := by
      intro r' hmem
      rw [List.filter_filter]
      refine List.filter_congr fun item _ => ?_
      by_cases heq : role item = r'
      · subst heq
        have hne : role item ≠ r := fun h => hfirst (h ▸ hmem)
        simp [hne]
      · simp [heq]
    -- so the first fiber is taken off, and the others are the fibers of what is left
    rw [List.map_cons, List.flatten_cons, ← List.map_congr_left hfibers]
    refine ((ih hrest hothers).append_left _).trans ?_
    simpa using List.filter_append_perm (role · = r) items

/-- A list is divided by the `role` of its items: the parts are the items of each of the `roles`. -/
theorem divides_fibers (role : α → ρ) (roles : List ρ) (hnodup : roles.Nodup)
    (hcovers : ∀ item ∈ items, role item ∈ roles) :
    Divides items (roles.map fun r => items.filter (role · = r)) where
  ordered part hpart := by
    obtain ⟨r, -, rfl⟩ := List.mem_map.1 hpart
    exact List.filter_sublist
  complete := flatten_fibers_perm role hnodup hcovers
  disjoint := by
    refine List.pairwise_map.2 (hnodup.imp fun {r r'} hne item hr hr' => hne ?_)
    rw [List.mem_filter, decide_eq_true_iff] at hr hr'
    exact hr.2.symm.trans hr'.2

end Division

/-- What a method is in its class, if it is not the initializer of the class. -/
inductive MethodRole where
  /-- A constructor, which has its role by its name. -/
  | constructor
  /-- A method of the instances of the class. -/
  | ofInstances
  /-- A method of the class itself, i.e. a static one. -/
  | ofClass
  deriving DecidableEq

namespace MethodDecl

variable (method : MethodDecl)

/-- The role of a method: a constructor by its name, whatever its mark says, and otherwise what
`isStatic` says. -/
def role : MethodRole :=
  if method.isConstructor then .constructor
  else if method.isStatic then .ofClass
  else .ofInstances

theorem decide_role_eq_constructor :
    decide (method.role = .constructor) = method.isConstructor := by
  unfold role
  split_ifs with h <;> simp [h]

theorem decide_role_eq_ofInstances :
    decide (method.role = .ofInstances) = (!method.isConstructor && !method.isStatic) := by
  unfold role
  split_ifs <;> simp [*]

theorem decide_role_eq_ofClass :
    decide (method.role = .ofClass) = (!method.isConstructor && method.isStatic) := by
  unfold role
  split_ifs <;> simp [*]

/-- No `method` is a constructor and an initializer, because these are two names. -/
theorem isInitializer_eq_false {method : MethodDecl} (h : method.isConstructor = true) :
    method.isInitializer = false := by
  rw [isConstructor, beq_iff_eq] at h
  rw [isInitializer, h]
  decide

end MethodDecl

namespace ClassDecl

variable (decl : ClassDecl)

/-- The methods that are to be shared out: all but those with `isInitializer`. -/
def sharedMethods : List MethodDecl :=
  decl.methods.filter fun method => !method.isInitializer

/-- The `staticMethods` of a class that are no constructors. -/
def plainStaticMethods : List MethodDecl :=
  decl.staticMethods.filter fun method => !method.isConstructor

/-- The `fields` of a class are divided into `instanceFields` and `staticFields`. -/
theorem divides_fields : Divides decl.fields [decl.instanceFields, decl.staticFields] := by
  have hcovers : ∀ field ∈ decl.fields, field.isStatic ∈ [false, true] := fun field _ => by
    cases field.isStatic <;> decide
  simpa [instanceFields, staticFields] using divides_fibers _ _ (by decide) hcovers

/-- The constructors of a class are the `sharedMethods` of role `constructor`. -/
theorem constructors_eq :
    decl.constructors = decl.sharedMethods.filter (·.role = .constructor) := by
  rw [constructors, sharedMethods, List.filter_filter]
  refine List.filter_congr fun method _ => ?_
  rw [MethodDecl.decide_role_eq_constructor]
  cases h : method.isConstructor with
  | false => rfl
  | true => rw [MethodDecl.isInitializer_eq_false h]; rfl

/-- The `sharedMethods` of a class are divided into the constructors, the `instanceMethods`, and the
`plainStaticMethods`. -/
theorem divides_methods :
    Divides decl.sharedMethods
      [decl.constructors, decl.instanceMethods, decl.plainStaticMethods] := by
  have hinstance : decl.instanceMethods = decl.sharedMethods.filter (·.role = .ofInstances) := by
    rw [instanceMethods, sharedMethods, List.filter_filter]
    refine List.filter_congr fun method _ => ?_
    rw [MethodDecl.decide_role_eq_ofInstances, Bool.and_comm (!method.isStatic)]
  have hstatic : decl.plainStaticMethods = decl.sharedMethods.filter (·.role = .ofClass) := by
    rw [plainStaticMethods, staticMethods, sharedMethods, List.filter_filter, List.filter_filter]
    refine List.filter_congr fun method _ => ?_
    rw [MethodDecl.decide_role_eq_ofClass, Bool.and_assoc]
  rw [constructors_eq, hinstance, hstatic]
  exact divides_fibers MethodDecl.role [.constructor, .ofInstances, .ofClass] (by decide)
    fun method _ => by cases method.role <;> decide

/-- A constructor with `isStatic` is one of the `staticMethods`, too. -/
theorem mem_staticMethods {method : MethodDecl} (h : method ∈ decl.constructors)
    (hstatic : method.isStatic = true) : method ∈ decl.staticMethods := by
  obtain ⟨hmem, hconstructor⟩ := List.mem_filter.1 h
  rw [staticMethods, List.mem_filter, hstatic, MethodDecl.isInitializer_eq_false hconstructor]
  exact ⟨hmem, rfl⟩

/-- All `staticMethods`, constructors or not, are among the `sharedMethods`, in their order. -/
theorem sublist_staticMethods : decl.staticMethods.Sublist decl.sharedMethods := by
  have hstatic : decl.staticMethods = decl.sharedMethods.filter (·.isStatic) := by
    rw [staticMethods, sharedMethods, List.filter_filter]
  rw [hstatic]
  exact List.filter_sublist

/-- The constructors among the `staticMethods` are the static ones among the `constructors`. -/
theorem filter_isConstructor_staticMethods :
    decl.staticMethods.filter (·.isConstructor) = decl.constructors.filter (·.isStatic) := by
  rw [staticMethods, constructors, List.filter_filter, List.filter_filter]
  refine List.filter_congr fun method _ => ?_
  cases h : method.isConstructor with
  | false => simp
  | true => simp [MethodDecl.isInitializer_eq_false h]

/-- The `constructors`, the `instanceMethods` and all `staticMethods` divide the `sharedMethods` iff
no constructor is static. -/
theorem divides_methods_iff :
    Divides decl.sharedMethods [decl.constructors, decl.instanceMethods, decl.staticMethods] ↔
      ∀ method ∈ decl.constructors, method.isStatic = false := by
  constructor
  · -- a static constructor would be in two parts
    intro h method hmem
    have hdisjoint : decl.constructors.Disjoint decl.staticMethods :=
      (List.pairwise_cons.1 h.disjoint).1 _ (by simp)
    by_contra hstatic
    rw [Bool.not_eq_false] at hstatic
    exact hdisjoint hmem (decl.mem_staticMethods hmem hstatic)
  · intro h
    -- no constructor has to be left out
    have hplain : decl.plainStaticMethods = decl.staticMethods := by
      refine List.filter_eq_self.2 fun method hmem => ?_
      obtain ⟨hmethod, hstatic⟩ := List.mem_filter.1 hmem
      rw [Bool.and_eq_true] at hstatic
      rw [Bool.not_eq_true', ← Bool.not_eq_true]
      intro hconstructor
      rw [h method (List.mem_filter.2 ⟨hmethod, hconstructor⟩)] at hstatic
      cases hstatic.1
    rw [← hplain]
    exact decl.divides_methods

end ClassDecl

/-- The `candidates` of the scopes into the class `decl`, by the parts that they cover, are its
members. Every field is in one of two parts. Every method but the initializer is a constructor,
whose instructions are a part, or in one of two parts, as long as no constructor is static: a static
constructor is among the static methods too, and nothing else is in two parts. -/
structure SharesOut (decl : ClassDecl) (candidates : ClassPart → Except Fault (List Entity)) :
    Prop where
  /-- The `fields` of the class are divided into those of the instances and those of the class. -/
  fields : ∃ ofInstances ofClass,
    candidates .instanceFields = .ok (ofInstances.map .ofField) ∧
      candidates .staticFields = .ok (ofClass.map .ofField) ∧
      Divides decl.fields [ofInstances, ofClass]
  /-- The methods but the initializer (`ClassDecl.sharedMethods`) are divided into the constructors,
  the methods of the instances and the static methods that are no constructors. The list `ofClass`
  of all static methods keeps their order too, and the constructors that it adds are the static
  ones. -/
  methods : ∃ constructors ofInstances ofClass,
    candidates .constructorInstructions =
        .ok ((constructors.flatMap (·.instructions)).map .ofInstruction) ∧
      candidates .instanceMethods = .ok (ofInstances.map .ofMethod) ∧
      candidates .staticMethods = .ok (ofClass.map .ofMethod) ∧
      constructors = decl.methods.filter (·.isConstructor) ∧
      Divides decl.sharedMethods
        [constructors, ofInstances, ofClass.filter (!·.isConstructor)] ∧
      (Divides decl.sharedMethods [constructors, ofInstances, ofClass] ↔
        ∀ method ∈ constructors, method.isStatic = false) ∧
      ofClass.Sublist decl.sharedMethods ∧
      ofClass.filter (·.isConstructor) = constructors.filter (·.isStatic)

namespace Scope

variable {table : Table} {owner : String} {decl : ClassDecl}

/-- **The scopes into a class share out its members** as `SharesOut` says, up to static
constructors, if the `owner` is bound to the class. -/
theorem sharesOut_candidates (artifact : Artifact)
    (h : table.resolve owner = .ok (.ofClass decl)) :
    SharesOut decl fun part => (inClass part owner).candidates artifact table := by
  have hmembers (part : ClassPart) :
      (inClass part owner).candidates artifact table = .ok (part.members decl) := by
    rw [candidates_inClass, h]
    rfl
  constructor
  · exact ⟨decl.instanceFields, decl.staticFields, hmembers _, hmembers _, decl.divides_fields⟩
  · exact ⟨decl.constructors, decl.instanceMethods, decl.staticMethods, hmembers _, hmembers _,
      hmembers _, rfl, decl.divides_methods, decl.divides_methods_iff,
      decl.sublist_staticMethods, decl.filter_isConstructor_staticMethods⟩

section Example

/-- A method of the class `a` with a `name` and an `access`, without a body. -/
def bodiless (name : String) (access : Int) : MethodDecl :=
  ⟨"a", name, "()V", access, []⟩

/-- The class `a` with some `fields` and `methods`. -/
def classOf (fields : List FieldDecl) (methods : List MethodDecl) : ClassDecl :=
  ⟨"a", .str "java/lang/Object", [], 1, fields, methods⟩

/-- A class with two static fields among three, and with a method of every kind: an initializer, a
static method, a constructor and a method of the instances. -/
def motley : ClassDecl :=
  classOf [⟨"a", "f", "I", 8⟩, ⟨"a", "g", "I", 0⟩, ⟨"a", "h", "I", 9⟩]
    [bodiless "<clinit>" 8, bodiless "m" 8, bodiless "<init>" 1, bodiless "n" 0]

/-- The table in which the mapper `C` is bound to the class `decl`. -/
def boundTo (decl : ClassDecl) : Table :=
  ⟨["C"], [⟨"C", .resolved (.ofClass decl)⟩], ""⟩

/-- The scopes into the class `motley` share out its members; the static fields are the first and
the last one. -/
theorem sharesOut_candidates_motley :
    (boundTo motley).resolve "C" = .ok (.ofClass motley) ∧
      (inClass .staticFields "C").candidates ⟨[motley], ""⟩ (boundTo motley) =
        .ok [.ofField ⟨"a", "f", "I", 8⟩, .ofField ⟨"a", "h", "I", 9⟩] ∧
      SharesOut motley fun part =>
        (inClass part "C").candidates ⟨[motley], ""⟩ (boundTo motley) := by
  have hbound : (boundTo motley).resolve "C" = .ok (.ofClass motley) := by decide +kernel
  exact ⟨hbound, by decide +kernel, sharesOut_candidates _ hbound⟩

/-- A document whose only class has a constructor that is marked as static is read, and then the
constructor is a candidate of the scope `staticMethods`. -/
theorem exists_static_constructor :
    Artifact.ofValue (.obj [("classes", .list [.obj [("name", .str "a"), ("methods", .list
        [.obj [("name", .str "<init>"), ("descriptor", .str "()V"), ("access", .int 8)]])]])]) =
      .ok ⟨[classOf [] [bodiless "<init>" 8]], ""⟩ ∧
    bodiless "<init>" 8 ∈ (classOf [] [bodiless "<init>" 8]).constructors ∧
    (inClass .staticMethods "C").candidates ⟨[classOf [] [bodiless "<init>" 8]], ""⟩
      (boundTo (classOf [] [bodiless "<init>" 8])) = .ok [.ofMethod (bodiless "<init>" 8)] := by
  refine ⟨?_, ?_, ?_⟩
  · decide +kernel
  · decide +kernel
  · decide +kernel

end Example

end Scope

end Reidentify
