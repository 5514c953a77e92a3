import JvmSchema.TypeTable

/-!
# The built-in table

Common value types of the Java platform with the members that the virtual machine reports for them.
-/

set_option autoImplicit false
set_option relaxedAutoImplicit false

namespace JvmSchema.TypeTable

/-- The built-in descriptions. -/
def jdkTypes : List TypeInfo :=
  let string : Descriptor := Identities.jvm.string
  let object : Descriptor := ⟨"Ljava/lang/Object;"⟩
  let characters : Descriptor := ⟨"Ljava/lang/CharSequence;"⟩
  let char : Descriptor := ⟨"C"⟩
  let int : Descriptor := ⟨"I"⟩
  let long : Descriptor := ⟨"J"⟩
  [ { descriptor := object, constructors := [{}] },
    { descriptor := ⟨"Ljava/util/UUID;"⟩
      constructors := [{ params := [long, long] }]
      methods := [.static "fromString" [string], .static "randomUUID" []] },
    { descriptor := ⟨"Ljava/net/URI;"⟩
      constructors := [{ params := [string] }]
      methods := [.static "create" [string]] },
    { descriptor := ⟨"Ljava/net/URL;"⟩, constructors := [{ params := [string] }] },
    { descriptor := ⟨"Ljava/io/File;"⟩, constructors := [{ params := [string] }] },
    { descriptor := ⟨"Ljava/util/Locale;"⟩
      constructors := [{ params := [string] }, { params := [string, string] }]
      methods := [.static "forLanguageTag" [string]] },
    { descriptor := ⟨"Ljava/util/Date;"⟩
      constructors := [{}, { params := [long] }, { params := [string] }] },
    { descriptor := ⟨"Ljava/lang/StringBuilder;"⟩
      constructors := [{}, { params := [string] }] },
    { descriptor := ⟨"Ljava/lang/Character;"⟩
      constructors := [{ params := [char] }]
      methods := [.static "valueOf" [char]] },
    { descriptor := ⟨"Ljava/time/LocalDate;"⟩
      methods := [.static "parse" [characters], .static "of" [int, int, int]] },
    { descriptor := ⟨"Ljava/time/Duration;"⟩, methods := [.static "parse" [characters]] },
    { descriptor := ⟨"Ljava/time/DayOfWeek;"⟩
      isEnum := true
      methods := [.static "valueOf" [string]] },
    { descriptor := ⟨"Ljava/util/concurrent/TimeUnit;"⟩
      isEnum := true
      methods := [.static "valueOf" [string]] },
    { descriptor := ⟨"Ljava/util/Currency;"⟩
      constructors := [{ params := [string, int, int], visibility := .private }]
      methods := [.static "getInstance" [string]] },
    { descriptor := ⟨"Ljava/util/Optional;"⟩
      constructors := [{ visibility := .private }]
      methods := [.static "of" [object]] },
    { descriptor := ⟨"Ljava/util/List;"⟩, methods := [.static "of" []] },
    { descriptor := ⟨"Ljava/util/Map;"⟩, methods := [.static "of" []] },
    { descriptor := ⟨"Ljava/util/ArrayList;"⟩, constructors := [{}, { params := [int] }] } ]

/-- The table of the built-in descriptions. -/
def jdk : TypeTable := empty.insertAll jdkTypes

end JvmSchema.TypeTable
