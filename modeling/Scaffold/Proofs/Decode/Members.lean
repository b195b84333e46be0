import Scaffold.Json
import Scaffold.Proofs.NameOrder

/-!
# The members of an object

The members of an object are the given ones in the order of their names, and of two members of one name the
later one counts (`ofMembers_eq`). So an object does not depend on the order in which its members come, as
long as no name comes twice (`ofMembers_of_perm`).
-/

namespace Scaffold

namespace Json

/-- The members are in the order of their names, each name once. -/
def Ordered (members : List (String × Json)) : Prop := members.Pairwise fun a b => a.1 < b.1

variable {members members' : List (String × Json)}

theorem insertMember_eq (name : String) (value : Json) (members : List (String × Json)) :
    insertMember name value members = insertNamed name value members := by
  induction members with
  | nil => rfl
  | cons first rest ih =>
    obtain ⟨n, v⟩ := first
    rw [insertMember, insertNamed, ih]
    split
    · next same => rw [same]
    · rfl

/-- The object of a row of members. -/
theorem ofMembers_eq (members : List (String × Json)) :
    ofMembers members = .object (inNameOrder members) := by
  unfold ofMembers inNameOrder
  simp only [insertMember_eq]

/-- The object of members is the row of these members in order. -/
theorem ofMembers_of_perm (perm : members'.Perm members) (ordered : Ordered members) :
    ofMembers members' = .object members := by
  rw [ofMembers_eq]
  have known : InNameOrder members := ordered
  refine congrArg Json.object ((ordered_inNameOrder members').eq_of_lookup known fun name => ?_)
  rw [lookup_inNameOrder]
  exact lookup_eq_of_perm known.nodup ((List.reverse_perm members').trans perm) name

end Json

end Scaffold
