set_option autoImplicit false

namespace OncePerKey

def maskChars (visible : Nat) (cs : List Char) : List Char :=
  if cs.length ≤ visible * 2 then List.replicate cs.length '*'
  else
    cs.take visible ++ List.replicate (cs.length - visible * 2) '*'
      ++ cs.drop (cs.length - visible)

@[simp] theorem length_maskChars (visible : Nat) (cs : List Char) :
    (maskChars visible cs).length = cs.length := by
  unfold maskChars
  split
  · simp
  · simp
    omega

def mask (value : String) (visible : Nat) : String :=
  String.ofList (maskChars visible value.toList)

def maskKey (key : String) : String :=
  mask key 4

end OncePerKey
