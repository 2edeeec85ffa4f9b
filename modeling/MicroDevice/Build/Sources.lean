import MicroDevice.Build.Workshop

/-! # Sources that come with the library

The runtime that is compiled for every session, the headers it needs, and the support
sources of the device families. They are written to a directory before tools are called.
-/

namespace MicroDevice.Sources

/-- A source file: its name and its text. -/
abbrev SourceFile := String × String

/-- The text of the runtime. -/
def runtimeText : String :=
  String.join (List.map (· ++ "\n") [
    "/*",
    " * Host-driven device runtime.",
    " *",
    " * The host writes a task and the workspace bounds, points the program",
    " * counter at micrort_init, and waits for execution to reach micrort_done.",
    " */",
    "#include \"micrort_runtime.h\"",
    "",
    "volatile micrort_task_t micrort_task = \x7b0\x7d;",
    "volatile int32_t micrort_return_code = 0;",
    "volatile uint32_t micrort_task_time = 0;",
    "volatile const char* micrort_last_error = NULL;",
    "",
    "/* Set by the host from the workspace region. */",
    "char* micrort_workspace_start = NULL;",
    "char* micrort_workspace_end = NULL;",
    "char* micrort_workspace_curr = NULL;",
    "size_t micrort_word_size = sizeof(void*);",
    "size_t micrort_num_active_allocs = 0;",
    "",
    "void micrort_init(void) \x7b",
    "  micrort_main();",
    "  micrort_done();",
    "\x7d",
    "",
    "void micrort_main(void) \x7b",
    "  micrort_workspace_curr = micrort_workspace_start;",
    "  micrort_num_active_allocs = 0;",
    "  micrort_last_error = NULL;",
    "  micrort_return_code = 0;",
    "  micrort_timer_start();",
    "  micrort_return_code =",
    "      micrort_task.func(micrort_task.arg_values, micrort_task.arg_type_codes, micrort_task.num_args);",
    "  micrort_task_time = micrort_timer_stop();",
    "\x7d",
    "",
    "/* The host sets a breakpoint here. */",
    "void micrort_done(void) \x7b\x7d",
    "",
    "void* micrort_alloc_workspace(size_t size) \x7b",
    "  size_t rem = size % micrort_word_size;",
    "  if (rem != 0) \x7b",
    "    size += micrort_word_size - rem;",
    "  \x7d",
    "  if (micrort_workspace_curr + size > micrort_workspace_end) \x7b",
    "    micrort_set_last_error(\"workspace exhausted\");",
    "    return NULL;",
    "  \x7d",
    "  void* ret = micrort_workspace_curr;",
    "  micrort_workspace_curr += size;",
    "  micrort_num_active_allocs++;",
    "  return ret;",
    "\x7d",
    "",
    "int micrort_free_workspace(void* ptr) \x7b",
    "  if (micrort_num_active_allocs == 0) \x7b",
    "    micrort_set_last_error(\"free without matching allocation\");",
    "    return -1;",
    "  \x7d",
    "  micrort_num_active_allocs--;",
    "  if (micrort_num_active_allocs == 0) \x7b",
    "    micrort_workspace_curr = micrort_workspace_start;",
    "  \x7d",
    "  return 0;",
    "\x7d",
    "",
    "void micrort_set_last_error(const char* msg) \x7b micrort_last_error = msg; \x7d",
    "",
    "/* Devices without a cycle counter report zero elapsed time. */",
    "__attribute__((weak)) int32_t micrort_timer_start(void) \x7b return 0; \x7d",
    "__attribute__((weak)) uint32_t micrort_timer_stop(void) \x7b return 0; \x7d"])

/-- The text of the header of the runtime. -/
def runtimeHeaderText : String :=
  String.join (List.map (· ++ "\n") [
    "#ifndef MICRORT_RUNTIME_H_",
    "#define MICRORT_RUNTIME_H_",
    "",
    "#include <stddef.h>",
    "#include <stdint.h>",
    "",
    "#ifdef __cplusplus",
    "extern \"C\" \x7b",
    "#endif",
    "",
    "typedef int32_t (*micrort_func_t)(void* args, void* arg_type_ids, int32_t num_args);",
    "",
    "/* One host-requested call. Written by the host before each run. */",
    "typedef struct \x7b",
    "  micrort_func_t func;",
    "  void* arg_values;",
    "  void* arg_type_codes;",
    "  int32_t num_args;",
    "\x7d micrort_task_t;",
    "",
    "void micrort_init(void);",
    "void micrort_main(void);",
    "void micrort_done(void);",
    "",
    "void* micrort_alloc_workspace(size_t size);",
    "int micrort_free_workspace(void* ptr);",
    "void micrort_set_last_error(const char* msg);",
    "",
    "int32_t micrort_timer_start(void);",
    "uint32_t micrort_timer_stop(void);",
    "",
    "#ifdef __cplusplus",
    "\x7d",
    "#endif",
    "",
    "#endif  /* MICRORT_RUNTIME_H_ */"])

/-- The text of the header that sends calls from operators to the runtime. -/
def redirectHeaderText : String :=
  String.join (List.map (· ++ "\n") [
    "#ifndef MICRORT_DEVICE_REDIRECT_H_",
    "#define MICRORT_DEVICE_REDIRECT_H_",
    "",
    "/*",
    " * Operator libraries are loaded after the runtime, so calls into the runtime",
    " * go through pointers the host patches at load time.",
    " */",
    "#include <stddef.h>",
    "",
    "void* (*micrort_alloc_workspace_)(size_t) = NULL;",
    "int (*micrort_free_workspace_)(void*) = NULL;",
    "void (*micrort_set_last_error_)(const char*) = NULL;",
    "",
    "void* micrort_alloc_workspace(size_t size) \x7b return (*micrort_alloc_workspace_)(size); \x7d",
    "",
    "int micrort_free_workspace(void* ptr) \x7b return (*micrort_free_workspace_)(ptr); \x7d",
    "",
    "void micrort_set_last_error(const char* msg) \x7b (*micrort_set_last_error_)(msg); \x7d",
    "",
    "#endif  /* MICRORT_DEVICE_REDIRECT_H_ */"])

/-- The text of the reset handler of Cortex-M7 boards. -/
def cortexResetText : String :=
  String.join (List.map (· ++ "\n") [
    "  .syntax unified",
    "  .cpu cortex-m7",
    "  .fpu softvfp",
    "  .thumb",
    "",
    "  .section .text.micrort_reset",
    "  .global micrort_reset",
    "  .type micrort_reset, %function",
    "micrort_reset:",
    "  ldr sp, =_micrort_stack_pointer_init",
    "  bl micrort_init",
    "  b .",
    "  .size micrort_reset, .-micrort_reset"])

/-- The text of the timer of Cortex-M7 boards. -/
def cortexTimerText : String :=
  String.join (List.map (· ++ "\n") [
    "/* Cycle timing through the Cortex-M7 DWT unit. */",
    "#include <stdint.h>",
    "",
    "#include \"micrort_runtime.h\"",
    "",
    "#define DWT_CTRL (*((volatile uint32_t*)0xE0001000))",
    "#define DWT_CYCCNT (*((volatile uint32_t*)0xE0001004))",
    "#define DEMCR (*((volatile uint32_t*)0xE000EDFC))",
    "#define DEMCR_TRCENA (1u << 24)",
    "#define DWT_CTRL_CYCCNTENA (1u << 0)",
    "",
    "static uint32_t start_time = 0;",
    "",
    "int32_t micrort_timer_start(void) \x7b",
    "  DEMCR |= DEMCR_TRCENA;",
    "  DWT_CYCCNT = 0;",
    "  DWT_CTRL |= DWT_CTRL_CYCCNTENA;",
    "  start_time = DWT_CYCCNT;",
    "  return 0;",
    "\x7d",
    "",
    "uint32_t micrort_timer_stop(void) \x7b",
    "  uint32_t stop_time = DWT_CYCCNT;",
    "  DWT_CTRL &= ~DWT_CTRL_CYCCNTENA;",
    "  return stop_time - start_time;",
    "\x7d"])

/-- The text of the timer of RISC-V devices. -/
def riscvTimerText : String :=
  String.join (List.map (· ++ "\n") [
    "/* Cycle timing through the RISC-V cycle CSR. */",
    "#include <stdint.h>",
    "",
    "#include \"micrort_runtime.h\"",
    "",
    "static uint64_t start_time = 0;",
    "",
    "static inline uint64_t read_cycles(void) \x7b",
    "  uint64_t cycles;",
    "  __asm__ volatile(\"rdcycle %0\" : \"=r\"(cycles));",
    "  return cycles;",
    "\x7d",
    "",
    "int32_t micrort_timer_start(void) \x7b",
    "  start_time = read_cycles();",
    "  return 0;",
    "\x7d",
    "",
    "uint32_t micrort_timer_stop(void) \x7b return (uint32_t)(read_cycles() - start_time); \x7d"])

/-- The file name of the runtime. -/
def runtimeName : String := "micrort_runtime.c"

/-- The file name of the header of the runtime. -/
def runtimeHeaderName : String := "micrort_runtime.h"

/-- The file name of the header that operators begin with. -/
def redirectHeaderName : String := "micrort_device_redirect.h"

/-- The support sources of Cortex-M7 boards. -/
def cortexSources : List SourceFile :=
  [("micrort_init.s", cortexResetText), ("micrort_timer.c", cortexTimerText)]

/-- The support sources of the RISC-V simulator. -/
def riscvSources : List SourceFile :=
  [("micrort_timer.c", riscvTimerText)]

/-- Write the runtime into a directory. -/
def writeRuntime (directory : Path) : Action Workshop BuildError Path := do
  let path := directory.join runtimeName
  Workshop.write path (Text.encode runtimeText)
  return path

/-- Write the headers into a directory, which is made if it is missing. -/
def writeHeaders (directory : Path) : Action Workshop BuildError Path := do
  Workshop.makeDirectories directory
  Workshop.write (directory.join runtimeHeaderName) (Text.encode runtimeHeaderText)
  Workshop.write (directory.join redirectHeaderName) (Text.encode redirectHeaderText)
  return directory

/-- Whether a file is one that a compiler takes. -/
def isCompilable (path : Path) : Bool :=
  match path.extension? with
  | some extension => extension = "c" || extension = "s" || extension = "S"
  | none => false

/-- Write sources into a directory that exists. The answer is the paths of those that a
compiler takes. -/
def writeEach (directory : Path) : List SourceFile → Action Workshop BuildError (List Path)
  | [] => return []
  | (name, text) :: later => do
      let path := directory.join name
      Workshop.write path (Text.encode text)
      let paths ← writeEach directory later
      return if isCompilable path then path :: paths else paths

/-- Write the support sources of a device into a directory, which is made if it is missing. -/
def writeDeviceSources (directory : Path) (sources : List SourceFile) :
    Action Workshop BuildError (List Path) := do
  Workshop.makeDirectories directory
  writeEach directory sources

end MicroDevice.Sources
