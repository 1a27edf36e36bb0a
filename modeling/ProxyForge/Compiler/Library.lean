/-!
# ProxyForge.Compiler.Library — the headers and names that a compiler brings along

The headers of the standard library, each with the headers that it includes, the
names that it defines and what it declares. They are looked for behind all
directories of a search path. The sizes are those of a machine whose pointers and
long integers have 64 bits.
-/

namespace ProxyForge.Compiler

/-- A header of the standard library. -/
structure LibraryHeader where
  name : String
  includes : List String := []
  /-- Each a name with what it stands for. -/
  definitions : List String := []
  declarations : List String := []
deriving Repr

namespace LibraryHeader

/-- The text of the header, which takes effect once. -/
def text (h : LibraryHeader) : String :=
  "#pragma once\n/* " ++ h.name ++ " */\n"
    ++ String.join (h.includes.map fun name => "#include <" ++ name ++ ">\n")
    ++ String.join (h.definitions.map fun d => "#define " ++ d ++ "\n")
    ++ String.join (h.declarations.map (· ++ "\n"))

end LibraryHeader

namespace Library

/-- The names that are defined before the first line. -/
def predefined : LibraryHeader where
  name := "predefined"
  definitions :=
    [ "__STDC__ 1", "__STDC_VERSION__ 199901L", "__STDC_HOSTED__ 1", "__STRICT_ANSI__ 1",
      "__STDC_IEC_559__ 1", "__STDC_UTF_16__ 1", "__STDC_UTF_32__ 1", "__STDC_ISO_10646__ 201706L",
      "__GNUC__ 12", "__GNUC_MINOR__ 2", "__GNUC_PATCHLEVEL__ 0", "__VERSION__ \"12.2.0\"",
      "__GNUC_STDC_INLINE__ 1", "__NO_INLINE__ 1", "__GLIBC__ 2", "__GLIBC_MINOR__ 36",
      "__x86_64 1", "__x86_64__ 1", "__amd64 1", "__amd64__ 1", "__k8 1", "__k8__ 1",
      "__linux 1", "__linux__ 1", "__gnu_linux__ 1", "__unix 1", "__unix__ 1", "__ELF__ 1",
      "__LP64__ 1", "_LP64 1", "__PIC__ 2", "__pic__ 2", "__SSE__ 1", "__SSE2__ 1",
      "__CHAR_BIT__ 8", "__BIGGEST_ALIGNMENT__ 16", "__ORDER_LITTLE_ENDIAN__ 1234",
      "__ORDER_BIG_ENDIAN__ 4321", "__BYTE_ORDER__ __ORDER_LITTLE_ENDIAN__",
      "__SIZEOF_INT__ 4", "__SIZEOF_LONG__ 8", "__SIZEOF_LONG_LONG__ 8", "__SIZEOF_SHORT__ 2",
      "__SIZEOF_FLOAT__ 4", "__SIZEOF_DOUBLE__ 8", "__SIZEOF_LONG_DOUBLE__ 16",
      "__SIZEOF_SIZE_T__ 8", "__SIZEOF_POINTER__ 8", "__SIZEOF_PTRDIFF_T__ 8",
      "__SIZEOF_WCHAR_T__ 4", "__SIZEOF_INT128__ 16",
      "__SIZE_TYPE__ long unsigned int", "__PTRDIFF_TYPE__ long int", "__WCHAR_TYPE__ int",
      "__INTMAX_TYPE__ long int", "__UINTMAX_TYPE__ long unsigned int",
      "__INTPTR_TYPE__ long int", "__UINTPTR_TYPE__ long unsigned int",
      "__INT8_TYPE__ signed char", "__INT16_TYPE__ short int", "__INT32_TYPE__ int",
      "__INT64_TYPE__ long int", "__UINT8_TYPE__ unsigned char",
      "__UINT16_TYPE__ short unsigned int", "__UINT32_TYPE__ unsigned int",
      "__UINT64_TYPE__ long unsigned int",
      "__SCHAR_MAX__ 0x7f", "__SHRT_MAX__ 0x7fff", "__INT_MAX__ 0x7fffffff",
      "__LONG_MAX__ 0x7fffffffffffffffL", "__LONG_LONG_MAX__ 0x7fffffffffffffffLL",
      "__SIZE_MAX__ 0xffffffffffffffffUL", "__INTPTR_MAX__ 0x7fffffffffffffffL",
      "__UINTPTR_MAX__ 0xffffffffffffffffUL", "__PTRDIFF_MAX__ 0x7fffffffffffffffL",
      "__USER_LABEL_PREFIX__", "__REGISTER_PREFIX__",
      "__FILE__ \"\"", "__BASE_FILE__ \"\"", "__LINE__ 1", "__COUNTER__ 0", "__INCLUDE_LEVEL__ 0",
      "__DATE__ \"Jan  1 2000\"", "__TIME__ \"00:00:00\"", "__TIMESTAMP__ \"\"",
      "__has_include __has_include", "__has_include_next __has_include_next",
      "__has_attribute __has_attribute", "__has_c_attribute __has_c_attribute",
      "__has_builtin __has_builtin" ]

/-- The header of null pointers and sizes. -/
def stddef : LibraryHeader where
  name := "stddef.h"
  definitions := ["NULL ((void *)0)", "offsetof(t, m) __builtin_offsetof(t, m)"]
  declarations :=
    ["typedef long ptrdiff_t;", "typedef unsigned long size_t;", "typedef int wchar_t;"]

/-- The headers of types, limits and language features. -/
def languageHeaders : List LibraryHeader :=
  [ stddef,
    { name := "stdbool.h"
      definitions := ["bool _Bool", "true 1", "false 0", "__bool_true_false_are_defined 1"] },
    { name := "stdint.h"
      definitions :=
        [ "INT8_MIN (-128)", "INT16_MIN (-32767-1)", "INT32_MIN (-2147483647-1)",
          "INT64_MIN (-9223372036854775807L-1)", "INT8_MAX (127)", "INT16_MAX (32767)",
          "INT32_MAX (2147483647)", "INT64_MAX (9223372036854775807L)", "UINT8_MAX (255)",
          "UINT16_MAX (65535)", "UINT32_MAX (4294967295U)", "UINT64_MAX (18446744073709551615UL)",
          "INTPTR_MIN (-9223372036854775807L-1)", "INTPTR_MAX (9223372036854775807L)",
          "UINTPTR_MAX (18446744073709551615UL)", "INTMAX_MIN (-9223372036854775807L-1)",
          "INTMAX_MAX (9223372036854775807L)", "UINTMAX_MAX (18446744073709551615UL)",
          "PTRDIFF_MIN (-9223372036854775807L-1)", "PTRDIFF_MAX (9223372036854775807L)",
          "SIZE_MAX (18446744073709551615UL)", "INT8_C(c) c", "INT16_C(c) c", "INT32_C(c) c",
          "INT64_C(c) c ## L", "UINT8_C(c) c", "UINT16_C(c) c", "UINT32_C(c) c ## U",
          "UINT64_C(c) c ## UL", "INTMAX_C(c) c ## L", "UINTMAX_C(c) c ## UL" ]
      declarations :=
        [ "typedef signed char int8_t; typedef short int16_t; typedef int int32_t;",
          "typedef long int64_t; typedef unsigned char uint8_t; typedef unsigned short uint16_t;",
          "typedef unsigned int uint32_t; typedef unsigned long uint64_t;",
          "typedef signed char int_least8_t; typedef short int_least16_t;",
          "typedef int int_least32_t; typedef long int_least64_t;",
          "typedef unsigned char uint_least8_t; typedef unsigned short uint_least16_t;",
          "typedef unsigned int uint_least32_t; typedef unsigned long uint_least64_t;",
          "typedef signed char int_fast8_t; typedef long int_fast16_t; typedef long int_fast32_t;",
          "typedef long int_fast64_t; typedef unsigned char uint_fast8_t;",
          "typedef unsigned long uint_fast16_t; typedef unsigned long uint_fast32_t;",
          "typedef unsigned long uint_fast64_t; typedef long intptr_t;",
          "typedef unsigned long uintptr_t; typedef long intmax_t;",
          "typedef unsigned long uintmax_t;" ] },
    { name := "inttypes.h"
      includes := ["stdint.h"]
      definitions :=
        [ "PRId8 \"d\"", "PRId16 \"d\"", "PRId32 \"d\"", "PRId64 \"ld\"", "PRIi64 \"li\"",
          "PRIu8 \"u\"", "PRIu16 \"u\"", "PRIu32 \"u\"", "PRIu64 \"lu\"", "PRIx8 \"x\"",
          "PRIx16 \"x\"", "PRIx32 \"x\"", "PRIx64 \"lx\"", "PRIX64 \"lX\"", "PRIdPTR \"ld\"",
          "PRIuPTR \"lu\"", "PRIxPTR \"lx\"", "PRIdMAX \"ld\"", "PRIuMAX \"lu\"" ]
      declarations := ["intmax_t imaxabs(intmax_t);"] },
    { name := "limits.h"
      definitions :=
        [ "CHAR_BIT 8", "SCHAR_MIN (-128)", "SCHAR_MAX 127", "UCHAR_MAX 255", "CHAR_MIN (-128)",
          "CHAR_MAX 127", "SHRT_MIN (-32768)", "SHRT_MAX 32767", "USHRT_MAX 65535",
          "INT_MIN (-2147483647 - 1)", "INT_MAX 2147483647", "UINT_MAX 4294967295U",
          "LONG_MIN (-9223372036854775807L - 1L)", "LONG_MAX 9223372036854775807L",
          "ULONG_MAX 18446744073709551615UL", "LLONG_MIN (-9223372036854775807LL - 1LL)",
          "LLONG_MAX 9223372036854775807LL", "ULLONG_MAX 18446744073709551615ULL",
          "MB_LEN_MAX 16" ] },
    { name := "float.h"
      definitions :=
        [ "FLT_RADIX 2", "FLT_DIG 6", "DBL_DIG 15", "FLT_MANT_DIG 24", "DBL_MANT_DIG 53",
          "FLT_MAX 3.4e38F", "DBL_MAX 1.7e308", "FLT_MIN 1.2e-38F", "DBL_MIN 2.3e-308",
          "FLT_EPSILON 1.2e-7F", "DBL_EPSILON 2.3e-16" ] },
    { name := "stdarg.h"
      definitions :=
        [ "va_start(v, l) __builtin_va_start(v, l)", "va_end(v) __builtin_va_end(v)",
          "va_arg(v, l) __builtin_va_arg(v, l)", "va_copy(d, s) __builtin_va_copy(d, s)" ]
      declarations :=
        ["typedef __builtin_va_list __gnuc_va_list; typedef __builtin_va_list va_list;"] },
    { name := "iso646.h"
      definitions :=
        [ "and &&", "and_eq &=", "bitand &", "bitor |", "compl ~", "not !", "not_eq !=", "or ||",
          "or_eq |=", "xor ^", "xor_eq ^=" ] },
    { name := "stdnoreturn.h", definitions := ["noreturn _Noreturn"] },
    { name := "stdalign.h", definitions := ["alignas _Alignas", "alignof _Alignof"] },
    { name := "assert.h"
      definitions :=
        ["assert(e) ((e) ? (void)0 : (void)0)", "static_assert _Static_assert"] },
    { name := "errno.h"
      definitions :=
        [ "errno (*__errno_location())", "EPERM 1", "ENOENT 2", "EINTR 4", "EIO 5", "EAGAIN 11",
          "ENOMEM 12", "EACCES 13", "EEXIST 17", "EINVAL 22", "EDOM 33", "ERANGE 34",
          "EILSEQ 84" ]
      declarations := ["extern int *__errno_location(void);"] } ]

/-- The headers of functions. -/
def functionHeaders : List LibraryHeader :=
  [ { name := "string.h"
      includes := ["stddef.h"]
      declarations :=
        [ "void *memcpy(void *, const void *, size_t);",
          "void *memmove(void *, const void *, size_t);",
          "void *memset(void *, int, size_t); int memcmp(const void *, const void *, size_t);",
          "void *memchr(const void *, int, size_t); char *strcpy(char *, const char *);",
          "char *strncpy(char *, const char *, size_t); char *strcat(char *, const char *);",
          "char *strncat(char *, const char *, size_t); int strcmp(const char *, const char *);",
          "int strncmp(const char *, const char *, size_t); char *strchr(const char *, int);",
          "char *strrchr(const char *, int); char *strstr(const char *, const char *);",
          "size_t strlen(const char *); size_t strspn(const char *, const char *);",
          "size_t strcspn(const char *, const char *); char *strtok(char *, const char *);",
          "char *strerror(int); int strcoll(const char *, const char *);" ] },
    { name := "stdlib.h"
      includes := ["stddef.h"]
      definitions := ["EXIT_FAILURE 1", "EXIT_SUCCESS 0", "RAND_MAX 2147483647"]
      declarations :=
        [ "void *malloc(size_t); void *calloc(size_t, size_t); void *realloc(void *, size_t);",
          "void free(void *); void abort(void); void exit(int); int atexit(void (*)(void));",
          "int atoi(const char *); long atol(const char *); double atof(const char *);",
          "long strtol(const char *, char **, int); double strtod(const char *, char **);",
          "unsigned long strtoul(const char *, char **, int); char *getenv(const char *);",
          "long long strtoll(const char *, char **, int); int abs(int); long labs(long);",
          "unsigned long long strtoull(const char *, char **, int); int system(const char *);",
          "int rand(void); void srand(unsigned int); long long atoll(const char *);",
          "void qsort(void *, size_t, size_t, int (*)(const void *, const void *));",
          "void *bsearch(const void *, const void *, size_t, size_t,",
          "  int (*)(const void *, const void *));" ] },
    { name := "stdio.h"
      includes := ["stddef.h", "stdarg.h"]
      definitions :=
        [ "EOF (-1)", "BUFSIZ 8192", "SEEK_SET 0", "SEEK_CUR 1", "SEEK_END 2", "stdin stdin",
          "stdout stdout", "stderr stderr" ]
      declarations :=
        [ "typedef struct _IO_FILE FILE; extern FILE *stdin; extern FILE *stdout;",
          "extern FILE *stderr; int printf(const char *, ...); int putchar(int);",
          "int fprintf(FILE *, const char *, ...); int sprintf(char *, const char *, ...);",
          "int snprintf(char *, size_t, const char *, ...); int puts(const char *);",
          "int vprintf(const char *, va_list); int vfprintf(FILE *, const char *, va_list);",
          "int vsnprintf(char *, size_t, const char *, va_list); int fputs(const char *, FILE *);",
          "int fputc(int, FILE *); int fgetc(FILE *); char *fgets(char *, int, FILE *);",
          "int getchar(void); int getc(FILE *); int putc(int, FILE *); int fflush(FILE *);",
          "FILE *fopen(const char *, const char *); int fclose(FILE *); int feof(FILE *);",
          "int ferror(FILE *); void perror(const char *); int remove(const char *);",
          "size_t fread(void *, size_t, size_t, FILE *); int scanf(const char *, ...);",
          "size_t fwrite(const void *, size_t, size_t, FILE *); long ftell(FILE *);",
          "int fscanf(FILE *, const char *, ...); int sscanf(const char *, const char *, ...);",
          "int fseek(FILE *, long, int); void rewind(FILE *);" ] },
    { name := "ctype.h"
      declarations :=
        [ "int isalpha(int); int isdigit(int); int isalnum(int); int isspace(int);",
          "int isupper(int); int islower(int); int isxdigit(int); int ispunct(int);",
          "int isprint(int); int iscntrl(int); int isgraph(int); int toupper(int);",
          "int tolower(int);" ] },
    { name := "math.h"
      definitions := ["HUGE_VAL (__builtin_huge_val())", "NAN (__builtin_nanf(\"\"))",
        "INFINITY (__builtin_inff())"]
      declarations :=
        [ "double sin(double); double cos(double); double tan(double); double sqrt(double);",
          "double pow(double, double); double fabs(double); double floor(double);",
          "double ceil(double); double exp(double); double log(double);",
          "double fmod(double, double);",
          "double log10(double); double atan2(double, double); double round(double);",
          "double trunc(double); float sqrtf(float); float fabsf(float);" ] },
    { name := "time.h"
      includes := ["stddef.h"]
      definitions := ["CLOCKS_PER_SEC ((clock_t)1000000)"]
      declarations :=
        [ "typedef long time_t; typedef long clock_t; struct tm \x7b int tm_sec; int tm_min;",
          "  int tm_hour; int tm_mday; int tm_mon; int tm_year; int tm_wday; int tm_yday;",
          "  int tm_isdst; long __tm_gmtoff; const char *__tm_zone; \x7d;",
          "time_t time(time_t *); clock_t clock(void); double difftime(time_t, time_t);",
          "struct tm *localtime(const time_t *); struct tm *gmtime(const time_t *);",
          "time_t mktime(struct tm *);" ] },
    { name := "signal.h"
      definitions := ["SIGINT 2", "SIGABRT 6", "SIGSEGV 11", "SIGTERM 15"]
      declarations :=
        [ "typedef int sig_atomic_t; typedef void (*__sighandler_t)(int);",
          "__sighandler_t signal(int, __sighandler_t); int raise(int);" ] },
    { name := "setjmp.h"
      declarations :=
        [ "typedef struct \x7b long __r[25]; \x7d jmp_buf[1]; int setjmp(jmp_buf);",
          "void longjmp(jmp_buf, int);" ] },
    { name := "locale.h"
      definitions := ["LC_CTYPE 0", "LC_ALL 6"]
      declarations := ["char *setlocale(int, const char *);"] },
    { name := "wchar.h"
      includes := ["stddef.h"]
      declarations := ["typedef unsigned int wint_t; size_t wcslen(const wchar_t *);"] },
    { name := "sys/types.h"
      includes := ["stddef.h", "stdint.h"]
      declarations :=
        [ "typedef long ssize_t; typedef long off_t; typedef int pid_t;",
          "typedef unsigned int uid_t;",
          "typedef unsigned int gid_t; typedef unsigned int mode_t; typedef long time_t;" ] },
    { name := "unistd.h"
      includes := ["stddef.h", "sys/types.h"]
      declarations :=
        [ "int close(int); ssize_t read(int, void *, size_t); int getpid(void);",
          "ssize_t write(int, const void *, size_t); unsigned int sleep(unsigned int);" ] },
    { name := "pthread.h"
      includes := ["stddef.h", "time.h"]
      declarations :=
        [ "typedef unsigned long pthread_t; typedef unsigned int pthread_key_t;",
          "typedef struct \x7b long __d[5]; \x7d pthread_mutex_t;" ] } ]

/-- The text of a header of the standard library. -/
def header? (name : String) : Option String :=
  ((languageHeaders ++ functionHeaders).find? (·.name == name)).map LibraryHeader.text

end Library

end ProxyForge.Compiler
